import Dialogue.Registry
import Mathlib

/-! Registries that were filled without an error bind every script that can be called. -/

namespace Dialogue

variable {κ : Kinds}

namespace Playbook

def Calls (book : Playbook κ) (i j : ScriptId) : Prop := j ∈ (book.script i).callees

def Reaches (book : Playbook κ) : ScriptId → ScriptId → Prop := Relation.ReflTransGen book.Calls

lemma forall_script {book : Playbook κ} {P : Script κ → Prop} (he : P .empty) (hs : ∀ s ∈ book.scripts, P s)
    (i : ScriptId) : P (book.script i) := by
  rw [script]
  cases hi : book.scripts[i]? with
  | none => exact he
  | some s => exact hs s (List.mem_of_getElem? hi)

end Playbook

namespace Registry

variable (book : Playbook κ)

def Binds (r : Registry) (i : ScriptId) : Prop := r.find? (book.script i).name = some i

def Closed (r : Registry) (pending : List ScriptId) : Prop :=
  ∀ i, r.Binds book i → ∀ j, book.Calls i j → r.Binds book j ∨ j ∈ pending

inductive Registered : List ScriptId → Registry → Prop
  | empty : Registered [] {}
  | register {roots : List ScriptId} {r r' : Registry} {i : ScriptId} : Registered roots r →
      register book r i = (r', none) → Registered (i :: roots) r'

variable {book} {r r' : Registry} {i j : ScriptId} {pending roots : List ScriptId}

lemma binds_bind_self : (r.bind (book.script i).name i).Binds book i := by
  simp [Binds, find?, bind]

lemma Binds.bind (hn : r.find? (book.script i).name = none) (hj : r.Binds book j) :
    (r.bind (book.script i).name i).Binds book j := by
  have hne : ¬ (book.script j).name = (book.script i).name := by
    intro he
    rw [Binds, he, hn] at hj
    simp at hj
  have hb : ((book.script j).name == (book.script i).name) = false := by simpa using hne
  simpa [Binds, find?, Registry.bind, List.lookup_cons, hb] using! hj

lemma binds_bind_cases (h : (r.bind (book.script i).name i).Binds book j) :
    j = i ∨ r.Binds book j := by
  by_cases he : (book.script j).name = (book.script i).name
  · left
    simpa [Binds, find?, bind, he, eq_comm] using h
  · right
    have hb : ((book.script j).name == (book.script i).name) = false := by simpa using he
    simpa [Binds, find?, bind, List.lookup_cons, hb] using! h

lemma Closed.of_binds (hi : r.Binds book i) (hc : r.Closed book (i :: pending)) :
    r.Closed book pending := by
  intro k hk j hj
  rcases hc k hk j hj with hb | hm
  · exact .inl hb
  · rcases List.mem_cons.mp hm with rfl | hm
    · exact .inl hi
    · exact .inr hm

lemma Closed.bind (hn : r.find? (book.script i).name = none)
    (hc : r.Closed book (i :: pending)) :
    (r.bind (book.script i).name i).Closed book ((book.script i).callees.reverse ++ pending) := by
  intro k hk j hj
  rcases binds_bind_cases hk with rfl | hk
  · exact .inr (List.mem_append_left _ (List.mem_reverse.mpr hj))
  · rcases hc k hk j hj with hb | hm
    · exact .inl (hb.bind hn)
    · rcases List.mem_cons.mp hm with rfl | hm
      · exact .inl binds_bind_self
      · exact .inr (List.mem_append_right _ hm)

lemma enrol_ok (h : enrol book pending r = (r', none)) :
    (∀ j, r.Binds book j → r'.Binds book j) ∧ (∀ j ∈ pending, r'.Binds book j) ∧
      (r.Closed book pending → r'.Closed book []) := by
  fun_induction enrol book pending r with
  | case1 r =>
    obtain rfl : r = r' := congrArg Prod.fst h
    exact ⟨fun j hj => hj, by simp, id⟩
  | case2 pending r i hf ih =>
    obtain ⟨hk, hp, hc⟩ := ih h
    exact ⟨hk, List.forall_mem_cons.mpr ⟨hk _ hf, hp⟩, fun hcl => hc (hcl.of_binds hf)⟩
  | case3 => simp at h
  -- A script that is new is bound, and what it calls becomes pending.
  | case4 i pending r hn ih =>
    obtain ⟨hk, hp, hc⟩ := ih h
    refine ⟨fun j hj => hk j (hj.bind hn), ?_, fun hcl => hc (hcl.bind hn)⟩
    exact List.forall_mem_cons.mpr
      ⟨hk i binds_bind_self, fun j hj => hp j (List.mem_append_right _ hj)⟩

lemma Registered.closed (h : Registered book roots r) :
    r.Closed book [] ∧ ∀ i ∈ roots, r.Binds book i := by
  induction h with
  | empty => exact ⟨by simp [Closed, Binds, find?], by simp⟩
  | @register roots r r' i _ hr ih =>
    obtain ⟨hk, hp, hc⟩ := enrol_ok hr
    refine ⟨hc fun k hk j hj => ?_, ?_⟩
    · exact (ih.1 k hk j hj).imp id (by simp)
    · exact List.forall_mem_cons.mpr ⟨hp i (by simp), fun j hj => hk j (ih.2 j hj)⟩

lemma Registered.binds_of_reaches (h : Registered book roots r) (hi : i ∈ roots)
    (hr : book.Reaches i j) : r.Binds book j := by
  obtain ⟨hc, hb⟩ := h.closed
  induction hr with
  | refl => exact hb i hi
  | tail _ hj ih => exact (hc _ ih _ hj).resolve_right (by simp)

end Registry

end Dialogue
