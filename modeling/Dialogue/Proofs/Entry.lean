import Dialogue.Proofs.Shape

/-! How a turn starts: at the first command of one frame, or behind the question where the innermost frame waits.
What bars it is the shape of the stack, a frame that does not wait at a question, or the input. -/

namespace Dialogue.Turn

variable {κ : Kinds}

variable (env : Env κ) (stack : CallStack)

inductive Barred : Entry → RunError → Prop
  | shape {entry : Entry} {reason : Malformation} : Misshapen env.book stack entry reason →
      Barred entry (.malformed reason)
  | target {input : Option Value} {key : String} {e : RunError} :
      (∀ f ∈ stack.frames, f.stopAt ≠ none) → stack.innermost.stopAt = some key →
      (env.book.script stack.innermost.script).asking key = .error e → Barred (.resume input) e
  | input {input : Option Value} {key : String} {index : Nat} {store : Option (Update κ)} {e : RunError} :
      (∀ f ∈ stack.frames, f.stopAt ≠ none) → stack.innermost.stopAt = some key →
      (env.book.script stack.innermost.script).asking key = .ok (index, store) →
      (activate stack.innermost).stored env store input = .error e → Barred (.resume input) e

inductive Starts : Entry → Machine → Prop
  | fresh : stack.callers = [] → Starts .fresh { frames := [activate stack.innermost] }
  | resume {input : Option Value} {key : String} {index : Nat} {store : Option (Update κ)} {vars : Value} :
      stack.innermost.stopAt = some key →
      (env.book.script stack.innermost.script).asking key = .ok (index, store) →
      (activate stack.innermost).stored env store input = .ok vars →
      Starts (.resume input)
        { frames := (activate stack.innermost).past index vars :: stack.callers.map activate
          journal := (Hook.trace? env store).toArray }

variable {env stack} {entry : Entry} {m : Machine} {e : RunError}

lemma enter_asked {key : String} {index : Nat} {store : Option (Update κ)} (input : Option Value)
    (hs : ∀ f ∈ stack.frames, f.stopAt ≠ none) (hk : stack.innermost.stopAt = some key)
    (ha : (env.book.script stack.innermost.script).asking key = .ok (index, store)) :
    enter env stack (.resume input) {} =
      match (activate stack.innermost).stored env store input with
      | .ok vars => .ok ()
        { frames := (activate stack.innermost).past index vars :: stack.callers.map activate
          journal := (Hook.trace? env store).toArray }
      | .error e => .error e ((entered stack).noted (Hook.trace? env store)) := by
  have hf : (entered stack).frames = activate stack.innermost :: stack.callers.map activate := rfl
  rw [enter_resume input hs hk (Script.asking_eq_ok_iff.mp ha), Machine.answer_eq env index store input hf]
  cases (activate stack.innermost).stored env store input with
  | error e => rfl
  | ok vars => simp [entered, Machine.noted]

lemma enter_cases (env : Env κ) (stack : CallStack) (entry : Entry) :
    match enter env stack entry {} with
    | .ok _ m => Starts env stack entry m
    | .error e _ => Barred env stack entry e := by
  by_cases hm : ∃ reason, Misshapen env.book stack entry reason
  · obtain ⟨reason, hm⟩ := hm
    rw [enter_misshapen hm]
    exact .shape hm
  have hm' : ∀ reason, ¬ Misshapen env.book stack entry reason := not_exists.mp hm
  cases entry with
  | fresh =>
    obtain ⟨hc, he⟩ := enter_fresh hm'
    rw [he, entered, CallStack.frames, hc]
    exact .fresh hc
  | resume input =>
    have hs : ∀ f ∈ stack.frames, f.stopAt ≠ none := stopAt_ne_of_shapely hm'
    obtain ⟨key, hk⟩ := Option.ne_none_iff_exists'.mp (hs stack.innermost List.mem_cons_self)
    cases ha : (env.book.script stack.innermost.script).asking key with
    | error e =>
      rw [enter_unasked input hs hk ha]
      exact .target hs hk ha
    | ok target =>
      obtain ⟨index, store⟩ := target
      rw [enter_asked input hs hk ha]
      cases hv : (activate stack.innermost).stored env store input with
      | error e => exact .input hs hk ha hv
      | ok vars => exact .resume hk ha hv

lemma starts_of_enter (h : enter env stack entry {} = .ok () m) : Starts env stack entry m := by
  have hc := enter_cases env stack entry
  rwa [h] at hc

lemma Barred.enter (h : Barred env stack entry e) : ∃ m, enter env stack entry {} = .error e m := by
  cases h with
  | shape hm => exact ⟨_, enter_misshapen hm⟩
  | target hs hk ha => exact ⟨_, enter_unasked _ hs hk ha⟩
  | input hs hk ha hv =>
    rw [enter_asked _ hs hk ha, hv]
    exact ⟨_, rfl⟩

lemma exists_barred_iff : (∃ e, Barred env stack entry e) ↔ ∃ e m, enter env stack entry {} = .error e m := by
  constructor
  · rintro ⟨e, h⟩
    exact ⟨e, h.enter⟩
  · rintro ⟨e, m, h⟩
    have hc := enter_cases env stack entry
    rw [h] at hc
    exact ⟨e, hc⟩

lemma Starts.blank (h : Starts env stack entry m) : m.steps = 0 ∧ m.contents = #[] ∧ m.yields = #[] := by
  cases h <;> exact ⟨rfl, rfl, rfl⟩

lemma Starts.scripts {P : ScriptId → Prop} (h : Starts env stack entry m) (hs : ∀ f ∈ stack.frames, P f.script) :
    ∀ f ∈ m.frames, P f.script := by
  obtain ⟨hi, hc⟩ := List.forall_mem_cons.mp hs
  cases h with
  | fresh _ => exact List.forall_mem_cons.mpr ⟨hi, by simp⟩
  | resume _ _ _ =>
    refine List.forall_mem_cons.mpr ⟨hi, ?_⟩
    intro g hg
    obtain ⟨f, hf, rfl⟩ := List.mem_map.mp hg
    exact hc f hf

end Dialogue.Turn
