import Dialogue.Proofs.Entry

/-! A script with commands put in front of it. A frame on it does what a frame on the shorter script does, so many
places further on, and one that waits is found again by its key. -/

namespace Dialogue

variable {κ : Kinds}

def Command.moves : Command κ → List Int64
  | say _ => [1]
  | jump offset => [offset]
  | branch _ _ offset => [offset, 1]
  | effect _ _ => [1]
  | _ => []

namespace Playbook

structure Extends (book : Playbook κ) (old new : ScriptId) (front : List (Command κ)) : Prop where
  name : (book.script new).name = (book.script old).name
  info : (book.script new).info = (book.script old).info
  commands : (book.script new).commands = front ++ (book.script old).commands
  room : ∀ index < (book.script new).commands.length, ∀ c ∈ (book.script old).commands,
    ∀ offset ∈ c.moves, (index : Int) + offset.toInt < 2 ^ 63

variable {book : Playbook κ} {old new i : ScriptId} {front : List (Command κ)} {key : String} {index : Nat}

lemma landing_of_lt {offset : Int64} (h : (index : Int) + offset.toInt < 2 ^ 63) :
    book.landing i index offset =
      if (index : Int) + offset.toInt < 0 then .error (.jumpOutOfRange (book.script i).name index offset)
      else .ok ((index : Int) + offset.toInt).toNat := by
  have hle : -2 ^ 63 ≤ offset.toInt := offset.le_toInt
  have hs : (Int64.ofNat index + offset).toInt = (index : Int) + offset.toInt := by
    rw [Int64.toInt_add, Int64.toInt_ofNat', Int.bmod_add_bmod]
    change Int.bmod _ (2 ^ 64) = _
    exact Int.bmod_eq_of_le (by omega) (by omega)
  have hlt : Int64.ofNat index + offset < 0 ↔ (index : Int) + offset.toInt < 0 := by
    rw [Int64.lt_iff_toInt_lt, hs]
    rfl
  have ht : (Int64.ofNat index + offset).toNatClampNeg = (Int64.ofNat index + offset).toInt.toNat := rfl
  simp only [landing, hlt, ht, hs]

namespace Extends

lemma getElem? (h : book.Extends old new front) (index : Nat) :
    (book.script new).commands[index + front.length]? = (book.script old).commands[index]? := by
  rw [h.commands, List.getElem?_append_right (Nat.le_add_left _ _), Nat.add_sub_cancel]

lemma stopIndex? (h : book.Extends old new front) (hi : (book.script old).stopIndex? key = some index) :
    (book.script new).stopIndex? key = some (index + front.length) := by
  obtain ⟨c, hc, hk⟩ := Script.stopIndex?_eq_some_iff.mp hi
  exact Script.stopIndex?_eq_some_iff.mpr ⟨c, (h.getElem? index).trans hc, hk⟩

lemma asking (h : book.Extends old new front) (hi : (book.script old).stopIndex? key = some index) :
    (book.script new).asking key =
      ((book.script old).asking key).map fun target => (target.1 + front.length, target.2) := by
  simp only [Script.asking, Script.stopIndex, hi, h.stopIndex? hi, h.getElem?, h.name]
  cases (book.script old).commands[index]? with
  | none => rfl
  | some c => cases c <;> rfl

lemma calling (h : book.Extends old new front) (hi : (book.script old).stopIndex? key = some index) :
    (book.script new).calling key =
      ((book.script old).calling key).map fun target => (target.1 + front.length, target.2) := by
  simp only [Script.calling, Script.stopIndex, hi, h.stopIndex? hi, h.getElem?, h.name]
  cases (book.script old).commands[index]? with
  | none => rfl
  | some c => cases c <;> rfl

lemma landing (h : book.Extends old new front) {c : Command κ} {offset : Int64} {target : Nat}
    (hc : (book.script old).commands[index]? = some c) (ho : offset ∈ c.moves)
    (hl : book.landing old index offset = .ok target) :
    book.landing new (index + front.length) offset = .ok (target + front.length) := by
  obtain ⟨hlt, -⟩ := List.getElem?_eq_some_iff.mp hc
  have hroom := h.room (index + front.length) (by rw [h.commands, List.length_append]; omega) c
    (List.mem_of_getElem? hc) offset ho
  rw [Nat.cast_add] at hroom
  rw [landing_of_lt (by omega)] at hl
  rw [landing_of_lt (by push_cast; omega)]
  split at hl
  · cases hl
  · cases hl
    rw [if_neg (by push_cast; omega)]
    congr 1
    push_cast
    omega

end Extends

end Playbook

def Activation.shifted (new : ScriptId) (n : Nat) (f : Activation) : Activation :=
  { f with script := new, index := f.index + n }

def Action.shifted (new : ScriptId) (n : Nat) : Action → Action
  | go f said queued => go (f.shifted new n) said queued
  | a => a

inductive Action.Shifts (new : ScriptId) (n : Nat) : Except RunError Action → Except RunError Action → Prop
  -- Only a jump in front of the first command may have somewhere to go in the longer script.
  | acts (a : Action) : Shifts new n (.ok a) (.ok (a.shifted new n))
  | fails (e : RunError) : Shifts new n (.error e) (.error e)
  | jumps (script : String) (index : Nat) (offset : Int64) (x : Except RunError Action) :
      Shifts new n (.error (.jumpOutOfRange script index offset)) x

lemma Action.Shifts.bind {α : Type} {new : ScriptId} {n : Nat} {k k' : α → Except RunError Action}
    (x : Except RunError α) (h : ∀ a, Shifts new n (k a) (k' a)) : Shifts new n (x >>= k) (x >>= k') := by
  cases x with
  | error e => exact .fails e
  | ok a => exact h a

namespace Activation

variable {env : Env κ} {old new : ScriptId} {front : List (Command κ)} {f : Activation} {c : Command κ}

lemma contextOf_extends (h : env.book.Extends old new front) (hf : f.script = old) (index : Nat) :
    Machine.contextOf env { f with script := new, index } = Machine.contextOf env f := by
  simp only [Machine.contextOf, h.info, hf]

lemma stored_congr {g : Activation} {store : Option (Update κ)} {input : Option Value}
    (hx : Machine.contextOf env g = Machine.contextOf env f) (hv : g.vars = f.vars) :
    g.stored env store input = f.stored env store input := by
  cases store with
  | none => rw [stored, stored, hv]
  | some hook => rw [stored, stored, hx]

lemma command?_shifted (h : env.book.Extends old new front) (hf : f.script = old) :
    (f.shifted new front.length).command? env = f.command? env := by
  rw [command?, command?, hf]
  exact h.getElem? f.index

lemma go_shifts (h : env.book.Extends old new front) (hf : f.script = old) {offset : Int64}
    (hc : (env.book.script old).commands[f.index]? = some c) (ho : offset ∈ c.moves) (said : List Value)
    (queued : List PendingYield) :
    Action.Shifts new front.length (do return .go (← f.jump env offset) said queued)
      (do return .go (← (f.shifted new front.length).jump env offset) said queued) := by
  subst hf
  rw [jump, jump]
  cases hl : env.book.landing f.script f.index offset with
  | error e =>
    rw [Playbook.landing] at hl
    split at hl
    · cases hl
      exact .jumps _ _ _ _
    · cases hl
  | ok target =>
    have hl' : env.book.landing (f.shifted new front.length).script (f.shifted new front.length).index offset =
        .ok (target + front.length) := h.landing hc ho hl
    rw [hl']
    exact .acts (.go { f with index := target } said queued)

lemma act_shifts (h : env.book.Extends old new front) (hf : f.script = old)
    (hc : (env.book.script old).commands[f.index]? = some c) :
    Action.Shifts new front.length (f.act env c) ((f.shifted new front.length).act env c) := by
  have hx : Machine.contextOf env (f.shifted new front.length) = Machine.contextOf env f :=
    contextOf_extends h hf _
  cases c with
  | say content =>
    simp only [act, hx]
    exact .bind _ fun value => go_shifts h hf hc (by simp [Command.moves]) [value] []
  | ask key store => exact .acts (.wait key)
  | call key callee entry params store =>
    simp only [act, hx]
    exact .bind _ fun given => .bind _ fun index => .acts (.enter key _)
  | jump offset => exact go_shifts h hf hc (by simp [Command.moves]) [] []
  | branch condition negated offset =>
    simp only [act, hx]
    refine .bind _ fun holds => go_shifts h hf hc ?_ [] []
    split <;> simp [Command.moves]
  | finish value =>
    simp only [act, hx]
    exact .bind _ fun v => .acts (.leave v)
  | effect store emit =>
    simp only [act, hx]
    refine .bind _ fun vars => ?_
    have hv : Machine.contextOf env ((f.shifted new front.length).withVars vars) =
        Machine.contextOf env (f.withVars vars) := contextOf_extends (f := f.withVars vars) h hf _
    rw [hv]
    exact .bind _ fun queued => go_shifts (f := f.withVars vars) h hf hc (by simp [Command.moves]) [] queued

lemma action_shifts (h : env.book.Extends old new front) (hf : f.script = old) :
    Action.Shifts new front.length (f.action env) ((f.shifted new front.length).action env) := by
  rw [action, action, command?_shifted h hf]
  cases hc : f.command? env with
  | none => exact .acts (.leave none)
  | some c =>
    rw [command?, hf] at hc
    exact act_shifts h hf hc

lemma events_shifted (h : env.book.Extends old new front) (hf : f.script = old) :
    (f.shifted new front.length).events env = f.events env := by
  rw [events, events, command?_shifted h hf]
  cases f.command? env with
  | none => rfl
  | some c =>
    have hx : Machine.contextOf env (f.shifted new front.length) = Machine.contextOf env f :=
      contextOf_extends h hf _
    cases c <;> simp only [trace, hx]

lemma receive_extends (h : env.book.Extends old new front) (hf : f.script = old) {key : String} {i : Nat}
    (hk : f.stopAt = some key) (hi : (env.book.script old).stopIndex? key = some i) (index : Nat)
    (value : Option Value) :
    receive env { f with script := new, index } value = (f.receive env value).map (shifted new front.length) ∧
      receipt env { f with script := new, index } = f.receipt env := by
  have hx : Machine.contextOf env { f with script := new, index } = Machine.contextOf env f :=
    contextOf_extends h hf index
  obtain ⟨script, vars, place, stopAt⟩ := f
  obtain rfl : script = old := hf
  obtain rfl : stopAt = some key := hk
  simp only [receive, receipt, h.calling hi]
  cases (env.book.script script).calling key with
  | error e => exact ⟨rfl, rfl⟩
  | ok target =>
    refine ⟨?_, rfl⟩
    simp only [Except.map, stored_congr hx rfl]
    cases stored env ⟨script, vars, place, some key⟩ target.2 value with
    | error e => rfl
    | ok vars => simp only [past, shifted, Nat.add_right_comm]

end Activation

end Dialogue
