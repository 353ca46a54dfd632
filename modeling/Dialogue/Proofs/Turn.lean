import Dialogue.Proofs.Evaluation
import Dialogue.Proofs.StopPoint
import Dialogue.Turn

/-! A turn in its parts: the entry, the run, and the values that are given out. -/

namespace Dialogue

variable {κ : Kinds}

def Playbook.alone (book : Playbook κ) (limit : Option Nat) : Env κ :=
  ⟨book, Services.scope {}, ⟨"cli", "guest"⟩, limit⟩

def PendingYield.fold : List PendingYield → Except RunError (Option Value)
  | [] => .ok none
  | y :: rest =>
    match fold rest with
    | .error e => .error e
    | .ok later => ((y.routine.run (y.context, later)).mapError .hook).map some

def PendingYield.calls : List PendingYield → List Event
  | [] => []
  | y :: rest =>
    match fold rest with
    | .error _ => calls rest
    | .ok _ => calls rest ++ [.called y.routine.label]

namespace Machine

lemma collect_append (ys zs : List PendingYield) (acc : Option Value) :
    collect (ys ++ zs) acc = collect ys acc >>= collect zs := by
  induction ys generalizing acc with
  | nil => simp [collect]
  | cons y ys ih => simp only [List.cons_append, collect, bind_assoc, ih]

lemma collect_reverse (ys : List PendingYield) (m : Machine) :
    collect ys.reverse none m = (m.noted (PendingYield.calls ys)).settle (PendingYield.fold ys) := by
  induction ys with
  | nil => simp [collect, PendingYield.fold, PendingYield.calls, pure, EStateM.pure]
  | cons y rest ih =>
    -- The head of the queue is the last to be run, with the value of all behind it.
    rw [List.reverse_cons, collect_append, PendingYield.fold, PendingYield.calls]
    cases hr : PendingYield.fold rest with
    | error e =>
      rw [hr] at ih
      exact bind_error ih
    | ok later =>
      rw [hr] at ih
      have hi := invoke_eq y.routine (y.context, later) (m.noted (PendingYield.calls rest))
      rw [bind_ok ih, collect, ← noted_noted]
      cases hv : y.routine.run (y.context, later) with
      | error e =>
        rw [hv] at hi
        simp only [bind_error hi, hv]
        rfl
      | ok value =>
        rw [hv] at hi
        simp only [bind_ok hi, hv]
        rfl

end Machine

namespace Turn

variable (env : Env κ) {fuel : Nat} {stack : CallStack} {entry : Entry}

def shown : EStateM.Result RunError Machine Outcome → Except RunError Outcome
  | .ok outcome _ => .ok outcome
  | .error e _ => .error e

def conclude : EStateM.Result RunError Machine Status → Except RunError Outcome
  | .error e _ => .error e
  | .ok status m => (PendingYield.fold m.yields.toList).map fun yielded => outcome status yielded m

lemma outcome_noted (status : Status) (yielded : Option Value) (m : Machine) (events : List Event) :
    outcome status yielded (m.noted events) = outcome status yielded m := by
  cases status <;> rfl

@[simp] lemma outcome_contents (status : Status) (yielded : Option Value) (m : Machine) :
    (outcome status yielded m).contents = m.contents := by
  cases status <;> rfl

@[simp] lemma outcome_yielded (status : Status) (yielded : Option Value) (m : Machine) :
    (outcome status yielded m).yielded = yielded := by
  cases status <;> rfl

def close : EStateM.Result RunError Machine Status → EStateM.Result RunError Machine Outcome
  | .error e m => .error e m
  | .ok status m => (m.noted (PendingYield.calls m.yields.toList)).settle
    ((PendingYield.fold m.yields.toList).map fun yielded => outcome status yielded m)

lemma shown_close (r : EStateM.Result RunError Machine Status) : shown (close r) = conclude r := by
  cases r with
  | error e m => rfl
  | ok status m =>
    simp only [close, conclude]
    cases PendingYield.fold m.yields.toList <;> rfl

lemma play_eq (fuel : Nat) (stack : CallStack) (entry : Entry) :
    play env fuel stack entry =
      match enter env stack entry {} with
      | .error e m => some (.error e m)
      | .ok _ m => (Machine.run env fuel m).map close := by
  rw [play]
  cases enter env stack entry {} with
  | error e m => rfl
  | ok _ m =>
    simp only
    cases Machine.run env fuel m with
    | none => rfl
    | some r =>
      cases r with
      | error e m' => rfl
      | ok status m' =>
        simp only [Machine.collect_reverse, Option.map_some, close]
        cases PendingYield.fold m'.yields.toList with
        | error e => rfl
        | ok yielded => simp [Except.map, outcome_noted]

lemma shown_play (fuel : Nat) (stack : CallStack) (entry : Entry) :
    (play env fuel stack entry).map shown =
      match enter env stack entry {} with
      | .error e _ => some (.error e)
      | .ok _ m => (Machine.run env fuel m).map conclude := by
  rw [play_eq]
  cases enter env stack entry {} with
  | error e m => rfl
  | ok _ m =>
    simp only [Option.map_map]
    congr 1
    exact funext shown_close

variable {env}

lemma play_eq_ok {o : Outcome} {m : Machine} (h : play env fuel stack entry = some (.ok o m)) :
    ∃ m₀ m₁ status yielded, enter env stack entry {} = .ok () m₀ ∧
      Machine.run env fuel m₀ = some (.ok status m₁) ∧ o = outcome status yielded m₁ ∧
      PendingYield.fold m₁.yields.toList = .ok yielded := by
  rw [play_eq] at h
  cases he : enter env stack entry {} with
  | error e m' =>
    rw [he] at h
    cases h
  | ok _ m₀ =>
    rw [he] at h
    obtain ⟨r, hr, hc⟩ := Option.map_eq_some_iff.mp h
    cases r with
    | error e m' => cases hc
    | ok status m₁ =>
      rw [close] at hc
      cases hy : PendingYield.fold m₁.yields.toList with
      | error e =>
        rw [hy] at hc
        cases hc
      | ok yielded =>
        rw [hy] at hc
        cases hc
        exact ⟨m₀, m₁, status, yielded, rfl, hr, rfl, hy⟩

def left? : Option (EStateM.Result RunError Machine Outcome) → Option CallStack
  | some (.ok o _) => o.stack
  | _ => none

lemma left?_eq_some {r : Option (EStateM.Result RunError Machine Outcome)}
    (h : left? r = some stack) : ∃ o m, r = some (.ok o m) ∧ o.stack = some stack := by
  rcases r with _ | ⟨o, m⟩ | ⟨e, m⟩
  · simp [left?] at h
  · exact ⟨o, m, rfl, h⟩
  · simp [left?] at h

lemma unstopped?_eq_none {book : Playbook κ} {level : Nat} {frames : List Frame}
    (h : ∀ f ∈ frames, f.stopAt ≠ none) : unstopped? book level frames = none := by
  induction frames generalizing level with
  | nil => rfl
  | cons f rest ih =>
    obtain ⟨key, hk⟩ := Option.ne_none_iff_exists'.mp (h f List.mem_cons_self)
    simp only [unstopped?, hk]
    exact ih fun g hg => h g (List.mem_cons_of_mem f hg)

def entered (stack : CallStack) : Machine := { frames := stack.frames.map activate }

lemma enter_root (root : ScriptId) (params : Option Value) :
    enter env (CallStack.root env.book root params) .fresh {} =
      .ok () (entered (CallStack.root env.book root params)) := rfl

lemma enter_resume {key : String} {index : Nat} {store : Option (Update κ)} (input : Option Value)
    (hs : ∀ f ∈ stack.frames, f.stopAt ≠ none) (hk : stack.innermost.stopAt = some key)
    (hc : (env.book.script stack.innermost.script).commands[index]? = some (.ask key store)) :
    enter env stack (.resume input) {} = Machine.answer env index store input (entered stack) := by
  have hm : malformation? env.book stack (.resume input) = none :=
    unstopped?_eq_none fun f hf => hs f (List.mem_reverse.mp hf)
  have ha : (env.book.script stack.innermost.script).asking
      (stack.innermost.stopAt.getD "") = .ok (index, store) := by
    rw [hk]
    exact Script.asking_eq_ok_iff.mpr hc
  simp only [enter, hm, ha]
  rfl

lemma enter_unasked {key : String} {e : RunError} (input : Option Value)
    (hs : ∀ f ∈ stack.frames, f.stopAt ≠ none) (hk : stack.innermost.stopAt = some key)
    (ha : (env.book.script stack.innermost.script).asking key = .error e) :
    enter env stack (.resume input) {} = .error e (entered stack) := by
  have hm : malformation? env.book stack (.resume input) = none :=
    unstopped?_eq_none fun f hf => hs f (List.mem_reverse.mp hf)
  simp only [enter, hm, hk, Option.getD_some, ha]
  rfl

end Turn

end Dialogue
