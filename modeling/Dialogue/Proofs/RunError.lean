import Dialogue.Proofs.Action
import Dialogue.Proofs.StopPoint
import Dialogue.Proofs.Turn

/-! Where the errors of a run come from: the command of the innermost frame, the caller that takes a value
back, and the values that are given out at the end. -/

namespace Dialogue

variable {κ : Kinds}

inductive RunError.OfHook : RunError → Prop
  | hook (message : String) : OfHook (.hook message)
  | service (error : ServiceError) : OfHook (.service error)

lemma map_eq_error {α β : Type} {x : Except RunError α} {f : α → β} {e : RunError} :
    x.map f = .error e ↔ x = .error e := by
  cases x <;> simp [Except.map]

lemma ofHook_of_mapError {β : Type} {x : Except String β} {e : RunError}
    (h : x.mapError .hook = .error e) : e.OfHook := by
  cases x with
  | error message =>
    cases h
    exact .hook message
  | ok y => cases h

namespace Hook

variable {α β : Type} {env : Env κ} {e : RunError}

lemma answer_eq_error {hook : Hook κ α β} {x : α} (h : hook.answer env x = .error e) : e.OfHook := by
  rw [answer] at h
  split at h
  · cases h
    exact .service _
  · exact ofHook_of_mapError h

lemma answer?_eq_error {hook : Option (Hook κ α β)} {x : α} (h : answer? env hook x = .error e) :
    e.OfHook := by
  cases hook with
  | none => cases h
  | some hook => exact answer_eq_error (map_eq_error.mp h)

lemma queued_eq_error {emit : Option (Update κ)} {c : Context} (h : queued env emit c = .error e) :
    e.OfHook := by
  cases emit with
  | none => cases h
  | some hook =>
    simp only [queued] at h
    split at h <;> cases h
    exact .service _

end Hook

lemma PendingYield.fold_eq_error {e : RunError} {ys : List PendingYield} (h : fold ys = .error e) :
    e.OfHook := by
  induction ys with
  | nil => cases h
  | cons y rest ih =>
    rw [fold] at h
    split at h
    · next hr =>
      cases h
      exact ih hr
    · exact ofHook_of_mapError (map_eq_error.mp h)

namespace Script

variable {s : Script κ} {key : String} {e : RunError}

def Lacks (s : Script κ) (key : String) : Prop := ∀ c ∈ s.commands, c.key? ≠ some key

lemma stopIndex_eq_error (h : s.stopIndex key = .error e) :
    e = .keyNotFound s.name key ∧ s.Lacks key := by
  rw [stopIndex] at h
  split at h
  · simp at h
  · next hn =>
    refine ⟨(Except.error.inj h).symm, fun c hc hk => ?_⟩
    obtain ⟨i, hi⟩ := List.getElem?_of_mem hc
    simp [stopIndex?_eq_some_iff.mpr ⟨c, hi, hk⟩] at hn

lemma asking_eq_error (h : s.asking key = .error e) :
    e = .keyNotFound s.name key ∨ e = .notAsking s.name key := by
  rw [asking] at h
  split at h
  · next hs =>
    cases h
    exact .inl (stopIndex_eq_error hs).1
  · split at h
    · simp at h
    · exact .inr (Except.error.inj h).symm

lemma calling_eq_error (h : s.calling key = .error e) :
    e = .keyNotFound s.name key ∨ e = .notCalling s.name key := by
  rw [calling] at h
  split at h
  · next hs =>
    cases h
    exact .inl (stopIndex_eq_error hs).1
  · split at h
    · simp at h
    · exact .inr (Except.error.inj h).symm

end Script

namespace Activation

variable (env : Env κ)

inductive Faults (f : Activation) : RunError → Prop
  | hook {e : RunError} : e.OfHook → Faults f e
  | jump (offset : Int64) :
      Faults f (.jumpOutOfRange (env.book.script f.script).name f.index offset)
  | entry {key place : String} {callee : ScriptId} {params : Option (Query κ)} {store : Option (Update κ)} :
      f.command? env = some (.call key callee (some place) params store) →
      (env.book.script callee).Lacks place →
      Faults f (.keyNotFound (env.book.script callee).name place)

variable {env} {f : Activation} {e : RunError}

lemma bind_eq_error {α β : Type} {x : Except RunError α} {k : α → Except RunError β} :
    (x >>= k) = .error e ↔ x = .error e ∨ ∃ a, x = .ok a ∧ k a = .error e := by
  cases x <;> simp [bind, Except.bind]

lemma jump_eq_error {offset : Int64} (h : f.jump env offset = .error e) : f.Faults env e := by
  rw [jump, Playbook.landing] at h
  split at h
  · cases h
    exact .jump offset
  · simp [Except.map] at h

lemma go_eq_error {g : Activation} {offset : Int64} {said : List Value} {queued : List PendingYield}
    (hs : g.script = f.script) (hi : g.index = f.index)
    (h : (do return Action.go (← g.jump env offset) said queued) = .error e) : f.Faults env e := by
  rcases bind_eq_error.mp h with hj | ⟨f', -, h⟩
  · cases jump_eq_error hj with
    | hook he => exact .hook he
    | jump offset =>
      rw [hs, hi]
      exact .jump offset
    | entry hc hl => exact .entry (by rw [command?, hs, hi] at hc; exact hc) hl
  · cases h

lemma call_eq_error {key : String} {callee : ScriptId} {entry : Option String}
    {params : Option (Query κ)} {store : Option (Update κ)}
    (hc : f.command? env = some (.call key callee entry params store))
    (h : f.act env (.call key callee entry params store) = .error e) : f.Faults env e := by
  rw [act] at h
  rcases bind_eq_error.mp h with h | ⟨given, -, h⟩
  · exact .hook (Hook.answer?_eq_error h)
  rcases bind_eq_error.mp h with h | ⟨index, -, h⟩
  · cases entry with
    | none => simp [Playbook.start] at h
    | some place =>
      obtain ⟨rfl, hl⟩ := Script.stopIndex_eq_error h
      exact .entry hc hl
  · cases h

lemma action_eq_error (h : f.action env = .error e) : f.Faults env e := by
  rw [action] at h
  cases hc : f.command? env with
  | none => simp [hc] at h
  | some c =>
    simp only [hc] at h
    cases c with
    | say content =>
      rcases bind_eq_error.mp h with h | ⟨value, -, h⟩
      · exact .hook (Hook.answer_eq_error h)
      · exact go_eq_error rfl rfl h
    | ask key store => cases h
    | call key callee entry params store => exact call_eq_error hc h
    | jump offset => exact go_eq_error rfl rfl h
    | branch condition negated offset =>
      rcases bind_eq_error.mp h with h | ⟨holds, -, h⟩
      · exact .hook (Hook.answer_eq_error h)
      · exact go_eq_error rfl rfl h
    | finish value =>
      rcases bind_eq_error.mp h with h | ⟨v, -, h⟩
      · exact .hook (Hook.answer?_eq_error h)
      · cases h
    | effect store emit =>
      rcases bind_eq_error.mp h with h | ⟨vars, -, h⟩
      · exact .hook (Hook.answer?_eq_error h)
      rcases bind_eq_error.mp h with h | ⟨queued, -, h⟩
      · exact .hook (Hook.queued_eq_error h)
      · exact go_eq_error (g := f.withVars vars) rfl rfl h

lemma stored_eq_error {store : Option (Update κ)} {input : Option Value}
    (h : f.stored env store input = .error e) : e.OfHook := by
  cases store with
  | none => simp [stored] at h
  | some hook => exact Hook.answer_eq_error h

lemma receive_eq_error {key : String} {value : Option Value} (hk : f.stopAt = some key)
    (h : f.receive env value = .error e) :
    (env.book.script f.script).calling key = .error e ∨ e.OfHook := by
  simp only [receive, hk] at h
  cases hc : (env.book.script f.script).calling key with
  | error e' =>
    simp only [hc] at h
    cases h
    exact .inl rfl
  | ok target =>
    obtain ⟨index, store⟩ := target
    simp only [hc] at h
    exact .inr (stored_eq_error (map_eq_error.mp h))

end Activation

namespace Machine

variable {env : Env κ} {m m' : Machine} {f : Activation} {callers : List Activation}

lemma step_eq_ok {status : Status} (hf : m.frames = f :: callers)
    (h : step env m = .ok status m') :
    ∃ a, f.action env = .ok a ∧
      perform env f callers (m.counted.noted (f.events env)) a = .ok status m' := by
  by_cases hl : Exhausted env m
  · obtain ⟨limit, hn, hs⟩ := hl
    simp [step_exhausted env hn hs] at h
  · have hp := step_performs env hl hf
    rw [h] at hp
    generalize f.action env = a at hp
    cases hp with
    | acts hr => exact ⟨_, rfl, hr.symm⟩

lemma step_eq_error {e : RunError} (hf : m.frames = f :: callers) (h : step env m = .error e m') :
    (∃ limit, env.limit = some limit ∧ e = .stepLimit limit) ∨ f.action env = .error e ∨
    ∃ value c rest, callers = c :: rest ∧ c.receive env value = .error e := by
  by_cases hl : Exhausted env m
  · obtain ⟨limit, hn, hs⟩ := hl
    rw [step_exhausted env hn hs] at h
    cases h
    exact .inl ⟨limit, hn, rfl⟩
  · right
    have hp := step_performs env hl hf
    rw [h] at hp
    generalize f.action env = a at hp
    cases hp with
    | fails _ => exact .inl rfl
    | @acts a _ hr =>
      right
      -- Of the actions only the end of a frame can fail, and only with a caller.
      cases a with
      | go f' said queued => cases hr
      | wait key => cases hr
      | enter key child => cases hr
      | leave value =>
        cases callers with
        | nil => cases hr
        | cons c rest =>
          refine ⟨value, c, rest, rfl, ?_⟩
          simp only [perform, handOver] at hr
          split at hr
          · next hc =>
            cases hr
            exact hc
          · cases hr

end Machine

namespace Turn

variable {env : Env κ} {fuel : Nat} {stack : CallStack} {entry : Entry} {e : RunError} {m : Machine}

lemma play_eq_error (h : play env fuel stack entry = some (.error e m)) :
    enter env stack entry {} = .error e m ∨
    ∃ m₀, enter env stack entry {} = .ok () m₀ ∧
      (Machine.run env fuel m₀ = some (.error e m) ∨ e.OfHook) := by
  rw [play_eq] at h
  split at h
  · next he =>
    cases h
    exact .inl he
  · next m₀ he =>
    refine .inr ⟨m₀, he, ?_⟩
    obtain ⟨r, hr, hc⟩ := Option.map_eq_some_iff.mp h
    cases r with
    | error e' m' =>
      cases hc
      exact .inl hr
    | ok status m₁ =>
      right
      rw [close] at hc
      cases hy : PendingYield.fold m₁.yields.toList with
      | error e' =>
        rw [hy] at hc
        cases hc
        exact PendingYield.fold_eq_error hy
      | ok yielded =>
        rw [hy] at hc
        cases hc

end Turn

end Dialogue
