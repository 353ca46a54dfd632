import Dialogue.Proofs.Extension
import Dialogue.Proofs.Forward
import Dialogue.Proofs.Frames
import Dialogue.Proofs.Integrity

/-! Jumps are exact. A frame is moved only from a place where it has a command, so the 64-bit sum of the place and the
offset is the sum of the integers, and the frame goes on there. -/

namespace Dialogue

variable {κ : Kinds}

namespace Machine

variable (env : Env κ)

inductive Moves (m : Machine) (offset : Int64) (m₁ : Machine) : Prop
  | mk {c : Command κ} {x : Act Int64} : ¬ Exhausted env m → next? env m = some c → prepare? env c = some x →
      x m.counted = .ok offset m₁ → Moves m offset m₁

variable {env} {m m₁ : Machine} {f : Activation} {callers : List Activation} {offset : Int64}

lemma step_of_place (hl : ¬ Exhausted env m) (hf : m.frames = f :: callers) :
    (∃ c, (env.book.script f.script).commands[f.index]? = some c ∧ step env m = dispatch env c m.counted) ∨
    ((env.book.script f.script).commands.length ≤ f.index ∧ step env m = complete env none m.counted) := by
  have hf' : m.counted.frames = f :: callers := hf
  rw [step, bind_ok (count_eq hl), bind_get, next?_eq hf', Activation.command?]
  cases hc : (env.book.script f.script).commands[f.index]? with
  | none => exact .inr ⟨List.getElem?_eq_none_iff.mp hc, rfl⟩
  | some c => exact .inl ⟨c, rfl, rfl⟩

lemma Moves.place (h : Moves env m offset m₁) (hf : m.frames = f :: callers) :
    step env m = advance env offset m₁ ∧ f.index < (env.book.script f.script).commands.length ∧
      ∃ vars, m₁.frames = { f with vars } :: callers := by
  obtain ⟨hl, hc, hp, hx⟩ := h
  have hf' : m.counted.frames = f :: callers := hf
  rw [next?_eq hf, Activation.command?] at hc
  have hi : f.index < (env.book.script f.script).commands.length := (List.getElem?_eq_some_iff.mp hc).1
  refine ⟨?_, hi, prepare_frames hp hf' hx⟩
  rcases step_of_place hl hf with ⟨c, hc', hs⟩ | ⟨hle, -⟩
  · obtain rfl := Option.some.inj (hc.symm.trans hc')
    rw [hs, dispatch_eq_advance hp, bind_ok hx]
  · omega

end Machine

namespace Turn

open Machine

variable {env : Env κ} {stack : CallStack} {entry : Entry} {m₀ m m₁ : Machine} {k : Nat} {offset : Int64}

end Turn

end Dialogue
