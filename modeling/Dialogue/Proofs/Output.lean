import Dialogue.Proofs.Entry
import Dialogue.Proofs.Trail

/-! What a turn brings about is read off its trail: the contents from the contents on it, the value that is given
out from the effects on it, and the journal from all of it. -/

namespace Dialogue

variable {κ : Kinds}

namespace PendingYield

def call (y : PendingYield) : Event := .called y.routine.label

inductive GivesOut (ys : List PendingYield) : List Event → Except RunError (Option Value) → Prop
  | all {value : Option Value} : fold ys = .ok value → GivesOut ys (ys.reverse.map call) (.ok value)
  | broken {before after : List PendingYield} {y : PendingYield} {later : Option Value} {message : String} :
      ys = before ++ y :: after → fold after = .ok later →
      y.routine.run (y.context, later) = .error message →
      GivesOut ys ((y :: after).reverse.map call) (.error (.hook message))

lemma fold_cons_ok {y : PendingYield} {rest : List PendingYield} {later : Option Value}
    (h : fold rest = .ok later) :
    fold (y :: rest) = ((y.routine.run (y.context, later)).mapError .hook).map some := by
  rw [fold, h]

lemma givesOut (ys : List PendingYield) : GivesOut ys (calls ys) (fold ys) := by
  induction ys with
  | nil => exact .all rfl
  | cons y rest ih =>
    cases hr : fold rest with
    | error e =>
      -- One of the later values has failed, and this one is not called.
      have hf : fold (y :: rest) = .error e := by rw [fold, hr]
      have hc : calls (y :: rest) = calls rest := by rw [calls, hr]
      rw [hf, hc]
      rw [hr] at ih
      generalize calls rest = events at ih
      cases ih with
      | @broken before after z later message hs ha hz =>
        have hs' : y :: rest = (y :: before) ++ z :: after := by rw [hs, List.cons_append]
        exact .broken hs' ha hz
    | ok later =>
      have hc : calls (y :: rest) = calls rest ++ [y.call] := by
        rw [calls, hr]
        rfl
      rw [fold_cons_ok hr, hc]
      rw [hr] at ih
      generalize calls rest = events at ih
      cases ih with
      | all _ =>
        have hc' : rest.reverse.map call ++ [y.call] = (y :: rest).reverse.map call := by simp
        rw [hc']
        cases hv : y.routine.run (y.context, later) with
        | error message =>
          have hs : y :: rest = [] ++ y :: rest := rfl
          exact .broken hs hr hv
        | ok value =>
          apply GivesOut.all
          rw [fold_cons_ok hr, hv]
          rfl

lemma eq_none_iff_of_fold {ys : List PendingYield} {value : Option Value} (h : fold ys = .ok value) :
    value = none ↔ ys = [] := by
  cases ys with
  | nil =>
    cases h
    simp
  | cons y rest =>
    cases hr : fold rest with
    | error e =>
      rw [fold, hr] at h
      cases h
    | ok later =>
      rw [fold_cons_ok hr] at h
      cases hv : y.routine.run (y.context, later) with
      | error message =>
        rw [hv] at h
        cases h
      | ok v =>
        rw [hv] at h
        cases h
        simp

end PendingYield

namespace Machine

variable {env : Env κ} {n : Nat} {m m' : Machine}

lemma run_trail {r : EStateM.Result RunError Machine Status} (hu : m.Upright) (h : run env n m = some r) :
    ∃ k m₁ f callers, Steps env k m m₁ ∧ m₁.frames = f :: callers ∧ step env m₁ = r ∧
      trail env n m = trail env k m ++ if Exhausted env m₁ then [] else [⟨f, callers⟩] := by
  obtain ⟨k, m₁, hk, hs, hr, hne⟩ := run_eq_some h
  obtain ⟨f, callers, hf, -⟩ := hu.steps hs
  refine ⟨k, m₁, f, callers, hs, hf, hr, ?_⟩
  obtain ⟨j, rfl⟩ := Nat.exists_eq_add_of_lt hk
  rw [Nat.add_assoc, hs.trail_add]
  by_cases hl : Exhausted env m₁
  · rw [trail_exhausted hl, if_pos hl]
  · rw [trail_last hl hf fun m₂ h₂ => hne m₂ (hr.symm.trans h₂), if_neg hl]

lemma run_journal {r : EStateM.Result RunError Machine Status} (hu : m.Upright) (h : run env n m = some r) :
    (left r).journal = m.journal ++ (trail env n m).flatMap (Moment.events env) := by
  obtain ⟨k, m₁, f, callers, hs, hf, hr, ht⟩ := run_trail hu h
  have hj : m₁.journal = m.journal ++ (trail env k m).flatMap (Moment.events env) := hs.adds.1.journal
  rw [ht]
  by_cases hl : Exhausted env m₁
  · obtain ⟨limit, hn, hc⟩ := id hl
    rw [step_exhausted env hn hc] at hr
    rw [if_pos hl, ← hr, List.append_nil]
    exact hj
  · rw [if_neg hl, ← hr, step_journal hl hf, hj]
    simp [← Array.toList_inj]

lemma run_adds {status : Status} (hu : m.Upright) (h : run env n m = some (.ok status m')) :
    Adds env (trail env n m) m m' := by
  obtain ⟨k, m₁, f, callers, hs, hf, hr, ht⟩ := run_trail hu h
  rw [ht, if_neg (not_exhausted_of_ok hr)]
  exact hs.adds.1.trans (step_adds hf hr).1

end Machine

namespace Turn

open Machine

variable (env : Env κ) (fuel : Nat) (stack : CallStack) (entry : Entry)

inductive Preface : Entry → List Event → Prop
  | nothing {entry : Entry} : Preface entry []
  | question {input : Option Value} {key : String} {index : Nat} {store : Option (Update κ)} :
      stack.innermost.stopAt = some key →
      (env.book.script stack.innermost.script).asking key = .ok (index, store) →
      Preface (.resume input) (Hook.trace? env store)

inductive Account : EStateM.Result RunError Machine Outcome → Prop
  -- A turn that is barred or whose run fails gives out nothing.
  | barred {e : RunError} {m : Machine} : enter env stack entry {} = .error e m → Account (.error e m)
  | failed {m₀ m : Machine} {e : RunError} : enter env stack entry {} = .ok () m₀ →
      run env fuel m₀ = some (.error e m) →
      m.journal = m₀.journal ++ (trail env fuel m₀).flatMap (Moment.events env) → Account (.error e m)
  | stopped {m₀ m : Machine} {status : Status} {ys : List PendingYield} {events : List Event}
      {result : Except RunError (Option Value)} : enter env stack entry {} = .ok () m₀ →
      run env fuel m₀ = some (.ok status m) →
      m.journal = m₀.journal ++ (trail env fuel m₀).flatMap (Moment.events env) →
      List.Forall₂ (Moment.Queues env) ((trail env fuel m₀).filter (Moment.emits env)) ys →
      PendingYield.GivesOut ys events result →
      Account ((m.noted events).settle (result.map fun yielded => outcome status yielded m))

variable {env fuel stack entry}

variable (env stack entry) in
lemma enter_preface : Preface env stack entry (left (enter env stack entry {})).journal.toList := by
  have hc := enter_cases env stack entry
  cases he : enter env stack entry {} with
  | ok _ m =>
    rw [he] at hc
    cases hc with
    | fresh _ => exact .nothing
    | resume hk ha _ => exact .question hk ha
  | error e m =>
    rw [he] at hc
    cases hc with
    | shape hm =>
      cases (enter_misshapen hm).symm.trans he
      exact .nothing
    | target hs hk ha =>
      cases (enter_unasked _ hs hk ha).symm.trans he
      exact .nothing
    | input hs hk ha hv =>
      rw [enter_asked _ hs hk ha, hv] at he
      cases he
      simpa [left, Machine.noted, entered] using Preface.question hk ha

lemma run_outputs {m₀ m : Machine} {status : Status} (he : enter env stack entry {} = .ok () m₀)
    (hr : run env fuel m₀ = some (.ok status m)) :
    List.Forall₂ (Moment.Speaks env) ((trail env fuel m₀).filter (Moment.speaks env)) m.contents.toList ∧
    List.Forall₂ (Moment.Queues env) ((trail env fuel m₀).filter (Moment.emits env)) m.yields.toList := by
  obtain ⟨-, hc, hy⟩ := (starts_of_enter he).blank
  obtain ⟨⟨said, hc', hs⟩, ⟨queued, hy', hq⟩, -⟩ := run_adds (enter_upright he) hr
  rw [hc', hc, hy', hy]
  simpa using! ⟨hs, hq⟩

lemma account {r : EStateM.Result RunError Machine Outcome} (h : play env fuel stack entry = some r) :
    Account env fuel stack entry r := by
  rw [play_eq] at h
  cases he : enter env stack entry {} with
  | error e m =>
    rw [he] at h
    cases h
    exact .barred he
  | ok _ m₀ =>
    rw [he] at h
    obtain ⟨r', hr, rfl⟩ := Option.map_eq_some_iff.mp h
    have hj := run_journal (enter_upright he) hr
    cases r' with
    | error e m => exact .failed he hr hj
    | ok status m => exact .stopped he hr hj (run_outputs he hr).2 (PendingYield.givesOut m.yields.toList)

theorem output_of_trail (env : Env κ) (fuel : Nat) (stack : CallStack) (entry : Entry) :
    (∀ o m, play env fuel stack entry = some (.ok o m) → ∃ m₀ ys,
      enter env stack entry {} = .ok () m₀ ∧
      List.Forall₂ (Moment.Speaks env) ((trail env fuel m₀).filter (Moment.speaks env)) o.contents.toList ∧
      (o.yielded = none ↔ ∀ t ∈ trail env fuel m₀, t.emits env = false) ∧
      List.Forall₂ (Moment.Queues env) ((trail env fuel m₀).filter (Moment.emits env)) ys ∧
      PendingYield.fold ys = .ok o.yielded) ∧
    (∀ r, play env fuel stack entry = some r → Account env fuel stack entry r) ∧
    (∀ k m₀ m, enter env stack entry {} = .ok () m₀ → Steps env k m₀ m →
      m.journal = m₀.journal ++ (trail env k m₀).flatMap (Moment.events env)) ∧
    Preface env stack entry (left (enter env stack entry {})).journal.toList := by
  refine ⟨fun o m h => ?_, fun r h => account h, fun k m₀ m _ hs => hs.adds.1.journal,
    enter_preface env stack entry⟩
  obtain ⟨m₀, m₁, status, yielded, he, hr, rfl, hy⟩ := play_eq_ok h
  obtain ⟨hs, hq⟩ := run_outputs he hr
  have hn : m₁.yields.toList = [] ↔ ∀ t ∈ trail env fuel m₀, t.emits env = false := by
    rw [← List.length_eq_zero_iff, ← hq.length_eq, List.length_eq_zero_iff]
    simp
  refine ⟨m₀, m₁.yields.toList, he, ?_, ?_, hq, ?_⟩
  · rwa [outcome_contents]
  · rw [outcome_yielded, PendingYield.eq_none_iff_of_fold hy, hn]
  · rwa [outcome_yielded]

def spoken (text : String) : Query .common := .direct { run := fun _ => .ok (.str text) }

def paired (label : String) : Update .common :=
  .direct { label := some label, run := fun x => .ok (.arr [x.1.vars, x.2.getD .null]) }

def journey : Playbook .common where
  scripts := [
    { name := "gate", commands := [.effect (some (spoken "paid")) (some (paired "toll"))],
      stops := {}, indexed := rfl },
    { name := "road",
      commands := [.say (spoken "Off we go."), .effect (some (spoken "home")) (some (paired "leave")),
        .call "gate" 0 none none none, .effect (some (spoken "away")) none,
        .say (.direct { run := fun c => .ok c.vars }), .ask "rest" none],
      stops := ⟨[("rest", 5), ("gate", 2)]⟩, indexed := rfl }]

def arrived : Outcome := ⟨false, none, some (.arr [.str "home", .arr [.str "paid", .null]]),
  #[.str "Off we go.", .str "away"], some ⟨⟨1, .str "away", some "rest"⟩, []⟩⟩

theorem journey_output_of_trail : ∃ m m₀ ys,
    play (journey.alone none) 8 (.root journey 1 none) .fresh = some (.ok arrived m) ∧
    m.journal = #[.called none, .called none, .called none, .called none, .called none,
      .called (some "toll"), .called (some "leave")] ∧
    enter (journey.alone none) (.root journey 1 none) .fresh {} = .ok () m₀ ∧
    List.Forall₂ (Moment.Speaks (journey.alone none))
      ((trail (journey.alone none) 8 m₀).filter (Moment.speaks (journey.alone none)))
      [.str "Off we go.", .str "away"] ∧
    ((trail (journey.alone none) 8 m₀).filter (Moment.emits (journey.alone none))).map (fun t => t.frame.script) =
      [1, 0] ∧
    List.Forall₂ (Moment.Queues (journey.alone none))
      ((trail (journey.alone none) 8 m₀).filter (Moment.emits (journey.alone none))) ys ∧
    PendingYield.fold ys = .ok (some (.arr [.str "home", .arr [.str "paid", .null]])) := by
  have hp : (play (journey.alone none) 8 (.root journey 1 none) .fresh).map (fun r => (shown r, (left r).journal)) =
      some (.ok arrived, #[.called none, .called none, .called none, .called none, .called none,
        .called (some "toll"), .called (some "leave")]) := by cbv
  have hm : enter (journey.alone none) (.root journey 1 none) .fresh {} =
      .ok () { frames := [{ script := 1, vars := Script.defaultVars none }] } := by cbv
  have ht : ((trail (journey.alone none) 8 { frames := [{ script := 1, vars := Script.defaultVars none }] }).filter
      (Moment.emits (journey.alone none))).map (fun t => t.frame.script) = [1, 0] := by cbv
  obtain ⟨r, hp, hr⟩ := Option.map_eq_some_iff.mp hp
  cases r with
  | error e m => cases hr
  | ok o m =>
    obtain ⟨hshown, hj⟩ := Prod.mk.inj hr
    cases hshown
    obtain ⟨m₀, ys, he, hs, -, hq, hf⟩ :=
      (output_of_trail (journey.alone none) 8 (.root journey 1 none) .fresh).1 _ _ hp
    refine ⟨m, m₀, ys, hp, hj, he, hs, ?_, hq, hf⟩
    cases hm.symm.trans he
    exact ht

end Turn

end Dialogue
