import Dialogue.Proofs.Action
import Dialogue.Proofs.Run
import Dialogue.Proofs.Turn

/-! Frames that wait are inert: a run on top of them is the run alone, until it hands its value over. So a call is
the run of the called script alone, and its value is stored at this very call. -/

namespace Dialogue.Machine

variable {κ : Kinds}

def above (m : Machine) (below : List Activation) : Machine := { m with frames := m.frames ++ below }

variable (env : Env κ)

inductive Returns (value : Option Value) (m : Machine) (caller : Activation)
    (callers : List Activation) (key : String) : EStateM.Result RunError Machine Status → Prop
  | refused {e : RunError} {m' : Machine} :
      (env.book.script caller.script).calling key = .error e →
      Returns value m caller callers key (.error e m')
  | unstored {index : Nat} {hook : Update κ} {e : RunError} {m' : Machine} :
      (env.book.script caller.script).calling key = .ok (index, some hook) →
      hook.answer env (contextOf env caller, value) = .error e →
      Returns value m caller callers key (.error e m')
  | stored {index : Nat} {hook : Update κ} {vars : Value} :
      (env.book.script caller.script).calling key = .ok (index, some hook) →
      hook.answer env (contextOf env caller, value) = .ok vars →
      Returns value m caller callers key (.ok .running ({ m with
        frames := { caller with vars, index := index + 1, stopAt := none } :: callers }.noted
          (hook.trace env)))
  | kept {index : Nat} :
      (env.book.script caller.script).calling key = .ok (index, none) →
      Returns value m caller callers key (.ok .running { m with
        frames := { caller with index := index + 1, stopAt := none } :: callers })

inductive Beside (below : List Activation) : EStateM.Result RunError Machine Status →
    EStateM.Result RunError Machine Status → Prop
  | runs {m : Machine} : m.frames ≠ [] → Beside below (.ok .running m) (.ok .running (m.above below))
  | waits {m : Machine} : Beside below (.ok .waiting m) (.ok .waiting (m.above below))
  | fails {e : RunError} {m m' : Machine} : Beside below (.error e m) (.error e m')
  | ends {value : Option Value} {m : Machine} {r : EStateM.Result RunError Machine Status} :
      r = handOver env below m value → Beside below (.ok (.ended value) m) r

inductive RunsBeside (below : List Activation) (n : Nat) (m : Machine) :
    Option (EStateM.Result RunError Machine Status) → Option (EStateM.Result RunError Machine Status) → Prop
  | endless : RunsBeside below n m none none
  | waits {m₁ : Machine} : RunsBeside below n m (some (.ok .waiting m₁)) (some (.ok .waiting (m₁.above below)))
  | fails {e : RunError} {m₁ m₂ : Machine} : RunsBeside below n m (some (.error e m₁)) (some (.error e m₂))
  | ends {k : Nat} {m' m₁ : Machine} {value : Option Value} {r : Option (EStateM.Result RunError Machine Status)} :
      k < n → Steps env k m m' → Steps env k (m.above below) (m'.above below) →
      step env m' = .ok (.ended value) m₁ → step env (m'.above below) = handOver env below m₁ value →
      RunsBeside below n m (some (.ok (.ended value) m₁)) r

variable {env} {m m' : Machine} {f caller : Activation} {callers below : List Activation}
  {key : String}

lemma handOver_returns (value : Option Value) (m : Machine) (hc : caller.stopAt = some key) :
    Returns env value m caller callers key (handOver env (caller :: callers) m value) := by
  cases hk : (env.book.script caller.script).calling key with
  | error e =>
    simp only [handOver, Activation.receive, hc, hk]
    exact .refused hk
  | ok target =>
    obtain ⟨index, store⟩ := target
    simp only [handOver, Activation.receive, Activation.receipt, hc, hk]
    cases store with
    | none => simpa [Activation.stored, Except.map, Hook.trace?] using! Returns.kept hk
    | some hook =>
      simp only [Activation.stored, Hook.trace?]
      cases ha : hook.answer env (contextOf env caller, value) with
      | error e => exact .unstored hk ha
      | ok vars => exact .stored hk ha

lemma perform_beside (m : Machine) (a : Action) :
    Beside env below (perform env f callers m a) (perform env f (callers ++ below) m a) := by
  cases a with
  | go f' said queued => exact .runs (by simp)
  | wait key => exact .waits
  | enter key child => exact .runs (by simp)
  | leave value =>
    cases callers with
    -- Only where the last frame of the run ends do the frames below it matter.
    | nil => exact .ends (by cases below <;> rfl)
    | cons c rest =>
      simp only [perform, handOver, List.cons_append]
      cases c.receive env value with
      | error e => exact .fails
      | ok c' => exact .runs (by simp)

lemma Performs.beside {a : Except RunError Action} {r r' : EStateM.Result RunError Machine Status}
    (h : Performs env f callers m a r)
    (h' : Performs env f (callers ++ below) (m.above below) a r') : Beside env below r r' := by
  cases h with
  | fails _ =>
    cases h' with
    | fails _ => exact .fails
  | @acts a _ hr =>
    cases h' with
    | acts hr' =>
      rw [hr, hr', above, perform_frames]
      exact perform_beside m a

lemma step_beside (hm : m.frames ≠ []) : Beside env below (step env m) (step env (m.above below)) := by
  obtain ⟨f, callers, hf⟩ := List.exists_cons_of_ne_nil hm
  have hf' : (m.above below).frames = f :: (callers ++ below) := by simp [above, hf]
  by_cases hl : Exhausted env m
  -- Both have counted the same steps, so they come to the limit together.
  · obtain ⟨limit, hn, hs⟩ := hl
    have hs' : limit ≤ (m.above below).steps := hs
    rw [step_exhausted env hn hs, step_exhausted env hn hs']
    exact .fails
  · have hl' : ¬ Exhausted env (m.above below) := hl
    exact (step_performs env hl hf).beside (step_performs env hl' hf')

lemma step_above_running (hm : m.frames ≠ []) (h : step env m = .ok .running m') :
    step env (m.above below) = .ok .running (m'.above below) ∧ m'.frames ≠ [] := by
  have hb : Beside env below (step env m) (step env (m.above below)) := step_beside hm
  rw [h] at hb
  generalize step env (m.above below) = r at hb
  cases hb with
  | runs hm' => exact ⟨rfl, hm'⟩

lemma Steps.above {k : Nat} (below : List Activation) (h : Steps env k m m') (hm : m.frames ≠ []) :
    Steps env k (m.above below) (m'.above below) ∧ m'.frames ≠ [] := by
  induction h with
  | zero m => exact ⟨.zero _, hm⟩
  | succ hs _ ih =>
    obtain ⟨hs', hm'⟩ := step_above_running hm hs
    exact ⟨.succ hs' (ih hm').1, (ih hm').2⟩

lemma run_beside (below : List Activation) (hm : m.frames ≠ []) (n : Nat) :
    RunsBeside env below n m (run env n m) (run env n (m.above below)) := by
  cases hr : run env n m with
  | none =>
    obtain ⟨m', hs⟩ := run_eq_none_iff.mp hr
    rw [run_eq_none_iff.mpr ⟨_, (hs.above below hm).1⟩]
    exact .endless
  | some r =>
    obtain ⟨k, m', hk, hs, hlast, hne⟩ := run_eq_some hr
    obtain ⟨hs', hm'⟩ := hs.above below hm
    have hb : Beside env below r (step env (m'.above below)) := hlast ▸ step_beside hm'
    generalize hr' : step env (m'.above below) = r' at hb
    cases hb with
    | runs _ => exact absurd rfl (hne _)
    | waits =>
      rw [hs'.run_of_last hk hr' (by simp)]
      exact .waits
    | fails =>
      rw [hs'.run_of_last hk hr' (by simp)]
      exact .fails
    | ends h => exact .ends hk hs hs' hlast (hr'.trans h)

section Call

variable {callee : ScriptId} {entry : Option String} {params : Option (Query κ)} {store : Option (Update κ)}
  {given : Option Value} {index : Nat}

variable (env) in
def launched (m : Machine) (callee : ScriptId) (params : Option (Query κ)) (given : Option Value) (index : Nat) :
    Machine :=
  { m.counted.noted (Hook.trace? env params) with
    frames := [{ script := callee, vars := (env.book.script callee).initVars given, index }] }

lemma step_at_call (hl : ¬ Exhausted env m) (hf : m.frames = f :: callers)
    (hc : f.command? env = some (.call key callee entry params store)) :
    match Hook.answer? env params (contextOf env f), env.book.start callee entry with
    | .error e, _ => ∃ m', step env m = .error e m'
    | .ok _, .error e => ∃ m', step env m = .error e m'
    | .ok given, .ok index => step env m =
        .ok .running ((m.launched env callee params given index).above ({ f with stopAt := some key } :: callers)) := by
  have hp := step_performs env hl hf
  have hv : f.events env = Hook.trace? env params := by simp only [Activation.events, hc, Activation.trace]
  simp only [Activation.action, hc, Activation.act, hv] at hp
  generalize step env m = r at hp
  cases hg : Hook.answer? env params (contextOf env f) with
  | error e =>
    rw [hg] at hp
    cases hp with
    | fails _ => exact ⟨_, rfl⟩
  | ok given =>
    cases hi : env.book.start callee entry with
    | error e =>
      rw [hg, hi] at hp
      cases hp with
      | fails _ => exact ⟨_, rfl⟩
    | ok index =>
      rw [hg, hi] at hp
      cases hp with
      | acts h => exact h

lemma handOver_at_call (m : Machine) (value : Option Value)
    (hc : f.command? env = some (.call key callee entry params store)) :
    match f.stored env store value with
    | .error e => ∃ m', handOver env ({ f with stopAt := some key } :: callers) m value = .error e m'
    | .ok vars => handOver env ({ f with stopAt := some key } :: callers) m value =
        .ok .running ({ m with frames := f.past f.index vars :: callers }.noted (Hook.trace? env store)) := by
  have hk : (env.book.script f.script).calling key = .ok (f.index, store) :=
    Script.calling_eq_ok_iff.mpr ⟨callee, entry, params, hc⟩
  have hv : { f with stopAt := some key }.stored env store value = f.stored env store value := rfl
  simp only [handOver, Activation.receive, Activation.receipt, hk, hv]
  cases f.stored env store value with
  | error e => exact ⟨_, rfl⟩
  | ok vars => rfl

theorem run_at_call (hl : ¬ Exhausted env m) (hf : m.frames = f :: callers)
    (hc : f.command? env = some (.call key callee entry params store))
    (hg : Hook.answer? env params (contextOf env f) = .ok given) (hi : env.book.start callee entry = .ok index)
    (n : Nat) :
    match run env n (m.launched env callee params given index) with
    | none => run env (n + 1) m = none
    | some (.ok .running _) => False
    | some (.error e _) => ∃ m₂, run env (n + 1) m = some (.error e m₂)
    | some (.ok .waiting m₁) =>
      run env (n + 1) m = some (.ok .waiting (m₁.above ({ f with stopAt := some key } :: callers)))
    | some (.ok (.ended value) m₁) => ∃ k ≤ n, ∃ m', Steps env k m m' ∧
      match f.stored env store value with
      | .error e => ∃ m₂, step env m' = .error e m₂
      | .ok vars => step env m' =
        .ok .running ({ m₁ with frames := f.past f.index vars :: callers }.noted (Hook.trace? env store)) := by
  have hs := step_at_call hl hf hc
  simp only [hg, hi] at hs
  have hb : RunsBeside env ({ f with stopAt := some key } :: callers) n
      (m.launched env callee params given index) _ _ := run_beside _ (List.cons_ne_nil _ _) n
  simp only [run_succ_of_running hs]
  generalize run env n (m.launched env callee params given index) = r at hb ⊢
  generalize run env n ((m.launched env callee params given index).above _) = r' at hb ⊢
  cases hb with
  | endless => rfl
  | waits => rfl
  | fails => exact ⟨_, rfl⟩
  | ends hk _ ha _ hlast =>
    refine ⟨_, hk, _, .succ hs ha, ?_⟩
    rw [hlast]
    exact handOver_at_call _ _ hc

end Call

theorem run_over_callers (env : Env κ) (callers : List Activation) (hm : m.frames ≠ [])
    (hc : caller.stopAt = some key) :
    (∀ k m', Steps env k m m' →
      Steps env k (m.above (caller :: callers)) (m'.above (caller :: callers))) ∧
    (∀ n, match run env n m with
      | none => run env n (m.above (caller :: callers)) = none
      | some (.ok .running _) => False
      | some (.error e _) => ∃ m₂, run env n (m.above (caller :: callers)) = some (.error e m₂)
      | some (.ok .waiting m₁) =>
        run env n (m.above (caller :: callers)) = some (.ok .waiting (m₁.above (caller :: callers)))
      | some (.ok (.ended value) m₁) => ∃ k m', k < n ∧ Steps env k m m' ∧
        step env m' = .ok (.ended value) m₁ ∧
        Returns env value m₁ caller callers key (step env (m'.above (caller :: callers)))) ∧
    ∀ m₀ f callee entry params store, ¬ Exhausted env m₀ → m₀.frames = f :: callers →
      f.command? env = some (.call key callee entry params store) → caller = { f with stopAt := some key } →
      match Hook.answer? env params (contextOf env f), env.book.start callee entry with
      | .error e, _ => ∃ m₁, step env m₀ = .error e m₁
      | .ok _, .error e => ∃ m₁, step env m₀ = .error e m₁
      | .ok given, .ok index =>
        step env m₀ = .ok .running ((m₀.launched env callee params given index).above (caller :: callers)) := by
  refine ⟨fun k m' h => (h.above _ hm).1, fun n => ?_, ?_⟩
  · have hb : RunsBeside env (caller :: callers) n m _ _ := run_beside _ hm n
    generalize run env n m = r at hb ⊢
    generalize run env n (m.above (caller :: callers)) = r' at hb ⊢
    cases hb with
    | endless => rfl
    | waits => rfl
    | fails => exact ⟨_, rfl⟩
    | ends hk hs _ hlast hstep =>
      refine ⟨_, _, hk, hs, hlast, ?_⟩
      rw [hstep]
      exact handOver_returns _ _ hc
  · rintro m₀ f callee entry params store hl hf hcall rfl
    exact step_at_call hl hf hcall

def taken : Update .common := .direct { run := fun x => .ok (x.2.getD .null) }

def kitchen : Playbook .common where
  scripts := [
    { name := "cook", commands := [.finish (some (.direct { run := fun _ => .ok (.str "soup") }))],
      stops := {}, indexed := rfl },
    { name := "waiter", commands := [.call "dish" 0 none none (some taken),
        .finish (some (.direct { run := fun c => .ok c.vars }))],
      stops := ⟨[("dish", 0)]⟩, indexed := rfl },
    { name := "guest", commands := [.call "lunch" 1 none none (some taken)],
      stops := ⟨[("lunch", 0)]⟩, indexed := rfl }]

def waiter : Activation := { script := 1, vars := .null }

def guest : Activation := { script := 2, vars := .null, stopAt := some "lunch" }

theorem waiter_run_over_callers :
    step (kitchen.alone none) { frames := [waiter, guest] } =
      .ok .running ⟨[⟨0, Script.defaultVars none, 0, none⟩, { waiter with stopAt := some "dish" }, guest],
        #[], #[], 1, #[]⟩ ∧
    run (kitchen.alone none) 3 { frames := [waiter] } =
      some (.ok (.ended (some (.str "soup")))
        ⟨[], #[], #[], 3, #[.called none, .called none, .called none]⟩) ∧
    ∃ k < 3, ∃ m, Steps (kitchen.alone none) k { frames := [waiter, guest] } m ∧
      step (kitchen.alone none) m = .ok .running
        ⟨[{ guest with vars := .str "soup", index := 1, stopAt := none }], #[], #[], 3,
          #[.called none, .called none, .called none, .called none]⟩ := by
  have hr : run (kitchen.alone none) 3 { frames := [waiter] } =
      some (.ok (.ended (some (.str "soup")))
        ⟨[], #[], #[], 3, #[.called none, .called none, .called none]⟩) := by cbv
  have hg : guest.stopAt = some "lunch" := rfl
  obtain ⟨hsteps, hends, -⟩ := run_over_callers (m := { frames := [waiter] }) (kitchen.alone none) []
    (List.cons_ne_nil _ _) hg
  obtain ⟨-, -, hcall⟩ := run_over_callers (m := { frames := [waiter] }) (kitchen.alone none) [guest]
    (List.cons_ne_nil _ _) (show { waiter with stopAt := some "dish" }.stopAt = some "dish" from rfl)
  have hl : ¬ Exhausted (kitchen.alone none) { frames := [waiter, guest] } := by
    rintro ⟨limit, hn, -⟩
    cases hn
  refine ⟨hcall _ _ _ _ _ _ hl rfl rfl rfl, hr, ?_⟩
  have h := hends 3
  rw [hr] at h
  obtain ⟨k, m, hk, hs, -, hret⟩ := h
  refine ⟨k, hk, _, hsteps k m hs, ?_⟩
  generalize step (kitchen.alone none) (m.above [guest]) = r at hret
  cases hret with
  | refused h => cases h
  | unstored h h' =>
    cases h
    cases h'
  | kept h => cases h
  | stored h h' =>
    cases h
    cases h'
    rfl

end Dialogue.Machine
