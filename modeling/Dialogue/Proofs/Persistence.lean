import Dialogue.Proofs.Continuation

/-! A dialogue may be stored between its turns: the snapshots of what it leaves stand for just that. -/

namespace Dialogue

variable {κ : Kinds}

namespace CallStack

variable {book : Playbook κ} {root : ScriptId} {r : Registry} {stack : CallStack}

def snapshot (book : Playbook κ) (f : Frame) : Snapshot := ⟨(book.script f.script).name, f.vars, f.stopAt⟩

lemma framesOf_map_snapshot {frames : List Frame} (h : ∀ f ∈ frames, r.Binds book f.script) :
    framesOf r (frames.map (snapshot book)) = .ok frames := by
  induction frames with
  | nil => rfl
  | cons f rest ih =>
    obtain ⟨hf, hr⟩ := List.forall_mem_cons.mp h
    have hg : r.get (snapshot book f).script = .ok f.script := by
      rw [Registry.get, show r.find? (snapshot book f).script = some f.script from hf]
    simp only [List.map_cons, framesOf, hg, ih hr]
    rfl

lemma restore_snapshots (h : ∀ f ∈ stack.frames, r.Binds book f.script) :
    restore r (stack.snapshots book) = .ok stack := by
  have hf : framesOf r (stack.snapshots book) = .ok stack.frames.reverse :=
    framesOf_map_snapshot fun f hf => h f (List.mem_reverse.mp hf)
  simp [restore, hf, frames, ofFrames?]

lemma WellFormed.frame_reached (h : stack.WellFormed book root) :
    ∀ f ∈ stack.frames, book.Reaches root f.script :=
  List.forall_mem_cons.mpr ⟨h.chain.reaches, h.chain.caller_reaches⟩

end CallStack

namespace Turn

variable {book : Playbook κ} {root : ScriptId} {stack stack' : CallStack} {entry : Entry}

theorem restore_left_stack {roots : List ScriptId} {r : Registry} {scope : Scope κ} {thread : Thread}
    {limit : Option Nat} {fuel : Nat} {o : Outcome} {m : Machine}
    (hr : Registry.Registered book roots r) (hroot : root ∈ roots)
    (h : Occurs book root stack entry)
    (hp : play ⟨book, scope, thread, limit⟩ fuel stack entry = some (.ok o m))
    (hs : o.stack = some stack') : CallStack.restore r (stack'.snapshots book) = .ok stack' := by
  have hw : stack'.WellFormed book root := (h.resume none hp hs).enters
  apply CallStack.restore_snapshots
  intro f hf
  exact hr.binds_of_reaches hroot (hw.frame_reached f hf)

theorem coffee_restore_left_stack : ∃ r,
    Registry.Registered Coffee.book [Coffee.root] r ∧
    CallStack.restore r (Coffee.drinkAsked.snapshots Coffee.book) = .ok Coffee.drinkAsked := by
  obtain ⟨o, m, hp, hs⟩ := Coffee.first_turn
  have hr : Registry.Registered Coffee.book [Coffee.root] ⟨[("choose_drink", 0), ("take_order", 1)]⟩ :=
    .register .empty (by cbv)
  exact ⟨_, hr, restore_left_stack hr List.mem_cons_self (.start none) hp hs⟩

end Turn

end Dialogue
