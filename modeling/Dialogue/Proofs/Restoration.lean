import Dialogue.Proofs.Persistence
import Dialogue.Proofs.Refusal

/-! Restoring keeps every snapshot as it was, whatever was registered before and however often that has failed. -/

namespace Dialogue

variable {κ : Kinds}

namespace Registry

variable {book : Playbook κ} {among : ScriptId → Prop} {r : Registry} {name : String} {i : ScriptId}

def knows (r : Registry) (name : String) : Bool := (r.find? name).isSome

lemma Faithful.name_eq (h : r.Faithful book among) (hf : r.find? name = some i) : (book.script i).name = name :=
  (h.own _ (mem_of_find? hf)).1.symm

lemma get_of_not_knows (h : r.knows name = false) : r.get name = .error (.unknownScript name) := by
  rw [knows, Option.isSome_eq_false_iff, Option.isNone_iff_eq_none] at h
  rw [get, h]

end Registry

namespace CallStack

variable {book : Playbook κ} {r : Registry} {snapshots : List Snapshot} {frames : List Frame} {s : Snapshot}

def Revives (r : Registry) (s : Snapshot) (f : Frame) : Prop :=
  r.find? s.script = some f.script ∧ f.vars = s.vars ∧ f.stopAt = s.stopAt

lemma framesOf_of_known (h : ∀ s ∈ snapshots, r.knows s.script = true) :
    ∃ frames, framesOf r snapshots = .ok frames ∧ List.Forall₂ (Revives r) snapshots frames := by
  induction snapshots with
  | nil => exact ⟨[], rfl, .nil⟩
  | cons s rest ih =>
    obtain ⟨hs, hrest⟩ := List.forall_mem_cons.mp h
    obtain ⟨i, hi⟩ := Option.isSome_iff_exists.mp hs
    obtain ⟨frames, hf, hr⟩ := ih hrest
    refine ⟨⟨i, s.vars, s.stopAt⟩ :: frames, ?_, .cons ⟨hi, rfl, rfl⟩ hr⟩
    simp only [framesOf, Registry.get, hi, hf]

lemma framesOf_of_unknown (h : snapshots.find? (fun s => !r.knows s.script) = some s) :
    framesOf r snapshots = .error (.unknownScript s.script) := by
  induction snapshots with
  | nil => cases h
  | cons s' rest ih =>
    cases hk : r.knows s'.script with
    | false =>
      simp only [List.find?_cons, hk, Bool.not_false, Option.some.injEq] at h
      subst h
      rw [framesOf, Registry.get_of_not_knows hk]
    | true =>
      simp only [List.find?_cons, hk, Bool.not_true] at h
      obtain ⟨i, hi⟩ := Option.isSome_iff_exists.mp hk
      simp only [framesOf, Registry.get, hi, ih h]

lemma restore_of_known (hn : snapshots ≠ []) (h : ∀ s ∈ snapshots, r.knows s.script = true) :
    ∃ stack, restore r snapshots = .ok stack ∧ List.Forall₂ (Revives r) snapshots stack.frames.reverse := by
  obtain ⟨frames, hf, hr⟩ := framesOf_of_known h
  cases hc : frames.reverse with
  | nil =>
    rw [List.reverse_eq_nil_iff] at hc
    subst hc
    cases hr
    exact absurd rfl hn
  | cons f callers =>
    refine ⟨⟨f, callers⟩, by simp [restore, hf, hc, ofFrames?], ?_⟩
    rw [CallStack.frames, ← hc, List.reverse_reverse]
    exact hr

lemma restore_of_unknown (h : snapshots.find? (fun s => !r.knows s.script) = some s) :
    restore r snapshots = .error (.unknownScript s.script) := by
  rw [restore, framesOf_of_unknown h]

lemma known_of_restore {stack : CallStack} (h : restore r snapshots = .ok stack) :
    snapshots ≠ [] ∧ ∀ s ∈ snapshots, r.knows s.script = true := by
  constructor
  · rintro rfl
    cases h
  · cases hf : snapshots.find? (fun s => !r.knows s.script) with
    | none => simpa using hf
    | some s =>
      rw [restore_of_unknown hf] at h
      cases h

lemma restore_eq_ok {stack : CallStack} (h : restore r snapshots = .ok stack) :
    List.Forall₂ (Revives r) snapshots stack.frames.reverse := by
  obtain ⟨hn, hk⟩ := known_of_restore h
  obtain ⟨stack', hr, hf⟩ := restore_of_known hn hk
  cases h.symm.trans hr
  exact hf

lemma mem_of_restore {stack : CallStack} (h : restore r snapshots = .ok stack) :
    ∀ f ∈ stack.frames, ∃ s ∈ snapshots, Revives r s f := by
  intro f hf
  obtain ⟨i, hi, he⟩ := List.mem_iff_getElem.mp (List.mem_reverse.mpr hf)
  have hl := (restore_eq_ok h).length_eq
  refine ⟨snapshots[i], List.getElem_mem _, ?_⟩
  rw [← he]
  exact (restore_eq_ok h).get (by omega) hi

lemma snapshot_of_revives {among : ScriptId → Prop} (hr : r.Faithful book among)
    (h : List.Forall₂ (Revives r) snapshots frames) :
    frames.map (snapshot book) = snapshots ∧ ∀ f ∈ frames, r.Binds book f.script := by
  induction h with
  | nil => simp
  | @cons s f snapshots frames hs _ ih =>
    obtain ⟨hf, hv, hk⟩ := hs
    have hname := hr.name_eq hf
    refine ⟨?_, List.forall_mem_cons.mpr ⟨by rw [Registry.Binds, hname, hf], ih.2⟩⟩
    rw [List.map_cons, ih.1, snapshot, hname, hv, hk]

theorem restore_keeps_snapshots (book : Playbook κ) (calls : List ScriptId) (snapshots : List Snapshot) :
    let r := Registry.filled book calls
    ((∃ stack, restore r snapshots = .ok stack) ↔
      snapshots ≠ [] ∧ ∀ s ∈ snapshots, r.knows s.script = true) ∧
    (∀ stack, restore r snapshots = .ok stack →
      stack.snapshots book = snapshots ∧ ∀ f ∈ stack.frames, r.Binds book f.script) ∧
    (snapshots = [] → restore r snapshots = .error .emptyCallStack) ∧
    ∀ s, snapshots.find? (fun s => !r.knows s.script) = some s →
      restore r snapshots = .error (.unknownScript s.script) := by
  intro r
  refine ⟨⟨?_, ?_⟩, fun stack h => ?_, ?_, fun s h => restore_of_unknown h⟩
  · rintro ⟨stack, h⟩
    exact known_of_restore h
  · rintro ⟨hn, hk⟩
    obtain ⟨stack, h, -⟩ := restore_of_known hn hk
    exact ⟨stack, h⟩
  · obtain ⟨hs, hb⟩ := snapshot_of_revives Registry.filled_faithful.1 (restore_eq_ok h)
    exact ⟨hs, fun f hf => hb f (List.mem_reverse.mpr hf)⟩
  · rintro rfl
    rfl

def callerStack : List Snapshot := [⟨"caller", .obj [], some "second"⟩, ⟨"guide", .null, none⟩]

theorem caller_restore_keeps_snapshots :
    (Registry.registerAll Registry.namesakes [0, 3] {}).2 = [none, some (.duplicateScript "guide")] ∧
    (∃ stack, restore (Registry.filled Registry.namesakes [0, 3]) callerStack = .ok stack ∧
      stack.snapshots Registry.namesakes = callerStack) ∧
    restore (Registry.filled Registry.namesakes [0, 3]) (callerStack ++ [⟨"driver", .null, none⟩]) =
      .error (.unknownScript "driver") := by
  have hr : Registry.filled Registry.namesakes [0, 3] = ⟨[("caller", 3), ("guide", 0)]⟩ := by cbv
  obtain ⟨hok, hkeep, -, -⟩ := restore_keeps_snapshots Registry.namesakes [0, 3] callerStack
  obtain ⟨-, -, -, herr⟩ := restore_keeps_snapshots Registry.namesakes [0, 3]
    (callerStack ++ [⟨"driver", .null, none⟩])
  obtain ⟨stack, hs⟩ := hok.mpr ⟨by decide, by rw [hr]; decide⟩
  exact ⟨by cbv, ⟨stack, hs, (hkeep stack hs).1⟩, herr _ (by rw [hr]; rfl)⟩

end CallStack

end Dialogue
