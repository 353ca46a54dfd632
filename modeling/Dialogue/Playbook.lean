import Dialogue.Script

/-! Collections of scripts that call each other. -/

namespace Dialogue

variable {κ : Kinds}

structure Playbook (κ : Kinds) where
  scripts : List (Script κ) := []
  callee_lt : ∀ entry ∈ scripts.zipIdx, ∀ j ∈ entry.1.callees, j < entry.2 := by decide

namespace Playbook

def empty : Playbook κ where
  callee_lt := by simp

instance : Inhabited (Playbook κ) := ⟨empty⟩

-- A number without a script stands for an empty one.
def script (book : Playbook κ) (i : ScriptId) : Script κ := book.scripts[i]?.getD Script.empty

def size (book : Playbook κ) : Nat := book.scripts.length

theorem lt_of_mem_callees (book : Playbook κ) {i j : ScriptId} (h : j ∈ (book.script i).callees) :
    j < i := by
  rw [script] at h
  cases hs : book.scripts[i]? with
  | none => simp [hs, Script.callees, Script.empty] at h
  | some s =>
    rw [hs, Option.getD_some] at h
    exact book.callee_lt (s, i) (List.mk_mem_zipIdx_iff_getElem?.mpr hs) j h

theorem callee_lt_append (book : Playbook κ) {s : Script κ} (h : ∀ j ∈ s.callees, j < book.size) :
    ∀ entry ∈ (book.scripts ++ [s]).zipIdx, ∀ j ∈ entry.1.callees, j < entry.2 := by
  intro entry he j hj
  rw [List.zipIdx_append, List.mem_append] at he
  rcases he with he | he
  · exact book.callee_lt entry he j hj
  · simp only [List.zipIdx_singleton, List.mem_singleton, Nat.zero_add] at he
    subst he
    exact h j hj

-- The number of the script that is added is the old size.
def add (book : Playbook κ) (s : Script κ) (h : ∀ j ∈ s.callees, j < book.size) : Playbook κ where
  scripts := book.scripts ++ [s]
  callee_lt := book.callee_lt_append h

def add? (book : Playbook κ) (s : Script κ) : Option (Playbook κ) :=
  if h : ∀ j ∈ s.callees, j < book.size then some (book.add s h) else none

def weight (book : Playbook κ) (i : ScriptId) : Nat :=
  (book.script i).callees.attach.foldr (fun j n => weight book j.1 + n) 1
termination_by i
decreasing_by exact book.lt_of_mem_callees j.2

def load (book : Playbook κ) : List ScriptId → Nat
  | [] => 0
  | i :: rest => book.weight i + book.load rest

theorem load_append (book : Playbook κ) (l l' : List ScriptId) :
    book.load (l ++ l') = book.load l + book.load l' := by
  induction l with
  | nil => simp [load]
  | cons i l ih => simp only [List.cons_append, load, ih, Nat.add_assoc]

theorem load_reverse (book : Playbook κ) (l : List ScriptId) : book.load l.reverse = book.load l := by
  induction l with
  | nil => rfl
  | cons i l ih => simp only [List.reverse_cons, load_append, load, ih, Nat.add_comm, Nat.zero_add]

theorem weight_eq (book : Playbook κ) (i : ScriptId) :
    book.weight i = book.load (book.script i).callees + 1 := by
  have hl : ∀ l : List ScriptId, l.foldr (fun j n => book.weight j + n) 1 = book.load l + 1 := by
    intro l
    induction l with
    | nil => rfl
    | cons j l ih => simp only [List.foldr_cons, load, ih, Nat.add_assoc]
  rw [weight, List.foldr_attach (f := fun j n => book.weight j + n), hl]

end Playbook

end Dialogue
