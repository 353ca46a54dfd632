import Dialogue.Proofs.Action
import Dialogue.Proofs.Continuation
import Dialogue.Proofs.Entry

/-! A run from its frames alone, without a machine: how many steps it takes, what it says and queues, and where
it stops. A limit on steps is the only thing that can cut it short. -/

namespace Dialogue

variable {κ : Kinds}

inductive Finale
  | asks (frames : List Activation)
  | ends (value : Option Value)
  | fails (error : RunError)

def Finale.report (contents : Array Value) (queued : List PendingYield) : Finale → Except RunError Outcome
  | asks frames => (PendingYield.fold queued).map fun yielded =>
    ⟨false, none, yielded, contents, CallStack.ofFrames? (frames.map Activation.atRest)⟩
  | ends value => (PendingYield.fold queued).map fun yielded => ⟨true, value, yielded, contents, none⟩
  | fails e => .error e

def Env.within {α : Type} (env : Env κ) (steps : Nat) (result : Except RunError α) : Except RunError α :=
  match env.limit with
  | none => result
  | some limit => if limit < steps then .error (.stepLimit limit) else result

lemma Env.eq_ok_of_within {α : Type} {env : Env κ} {steps : Nat} {result : Except RunError α} {a : α}
    (h : env.within steps result = .ok a) : result = .ok a := by
  rw [Env.within] at h
  split at h
  · exact h
  · split_ifs at h
    exact h

lemma Env.within_of_le {α : Type} {env : Env κ} {steps : Nat} (result : Except RunError α)
    (h : ∀ limit ∈ env.limit, steps ≤ limit) : env.within steps result = result := by
  rw [Env.within]
  split
  · rfl
  · next limit hl => exact if_neg (Nat.not_lt.mpr (h limit hl))

inductive Passage (env : Env κ) :
    Nat → List Activation → List Value → List PendingYield → Finale → Prop
  | go {f f' callers said said' queued queued' k fin} : f.action env = .ok (.go f' said queued) →
      Passage env k (f' :: callers) said' queued' fin →
      Passage env (k + 1) (f :: callers) (said ++ said') (queued ++ queued') fin
  | enter {f key child callers said queued k fin} : f.action env = .ok (.enter key child) →
      Passage env k (child :: { f with stopAt := some key } :: callers) said queued fin →
      Passage env (k + 1) (f :: callers) said queued fin
  | back {f value c c' callers said queued k fin} : f.action env = .ok (.leave value) →
      c.receive env value = .ok c' → Passage env k (c' :: callers) said queued fin →
      Passage env (k + 1) (f :: c :: callers) said queued fin
  | asks {f key callers} : f.action env = .ok (.wait key) →
      Passage env 1 (f :: callers) [] [] (.asks ({ f with stopAt := some key } :: callers))
  | ends {f value} : f.action env = .ok (.leave value) → Passage env 1 [f] [] [] (.ends value)
  | stuck {f value c callers e} : f.action env = .ok (.leave value) → c.receive env value = .error e →
      Passage env 1 (f :: c :: callers) [] [] (.fails e)

namespace Machine

variable {env : Env κ} {m : Machine} {f : Activation} {callers : List Activation} {a : Action}

lemma step_of_action (hl : ¬ Exhausted env m) (hf : m.frames = f :: callers)
    (ha : f.action env = .ok a) :
    step env m = perform env f callers (m.counted.noted (f.events env)) a := by
  have hp := step_performs env hl hf
  rw [ha] at hp
  cases hp with
  | acts hr => exact hr

def onward (env : Env κ) (n : Nat) : EStateM.Result RunError Machine Status →
    Option (EStateM.Result RunError Machine Status)
  | .ok .running m => run env n m
  | r => some r

lemma run_succ_within {n k : Nat} {r : Except RunError Outcome} (hf : m.frames = f :: callers)
    (ha : f.action env = .ok a)
    (h : ¬ Exhausted env m →
      (onward env n (perform env f callers (m.counted.noted (f.events env)) a)).map Turn.conclude =
        some (env.within (m.steps + 1 + k) r)) :
    (run env (n + 1) m).map Turn.conclude = some (env.within (m.steps + (k + 1)) r) := by
  by_cases hl : Exhausted env m
  · obtain ⟨limit, hl, hs⟩ := hl
    have hlt : limit < m.steps + (k + 1) := by omega
    simp [run, step_exhausted env hl hs, Turn.conclude, Env.within, hl, hlt]
  · have hs := step_of_action hl hf ha
    rw [show m.steps + (k + 1) = m.steps + 1 + k by omega, ← h hl, run, hs]
    rfl

lemma within_of_not_exhausted {r : Except RunError Outcome} (hl : ¬ Exhausted env m) :
    env.within (m.steps + 1) r = r :=
  Env.within_of_le r fun limit he => Nat.lt_of_not_le fun hs => hl ⟨limit, he, hs⟩

end Machine

namespace Passage

variable {env : Env κ} {k n : Nat} {said : List Value} {queued : List PendingYield} {fin : Finale}

lemma run {frames : List Activation} (h : Passage env k frames said queued fin) {m : Machine}
    (hf : m.frames = frames) (hn : k ≤ n) :
    (Machine.run env n m).map Turn.conclude =
      some (env.within (m.steps + k) (fin.report (m.contents ++ said) (m.yields.toList ++ queued))) := by
  -- Each step of the passage is one of the machine, which has one step less to the limit after it.
  induction h generalizing m n with
  | @go f f' callers said said' queued queued' k fin ha _ ih =>
    obtain ⟨n, rfl⟩ := Nat.exists_eq_add_of_le' (Nat.one_le_of_lt hn)
    have hc : m.contents ++ (said ++ said') = m.contents ++ said ++ said' := by simp [← Array.toList_inj]
    refine Machine.run_succ_within hf ha fun _ => (ih rfl (by omega)).trans ?_
    simp [hc, Machine.counted]
  | enter ha _ ih =>
    obtain ⟨n, rfl⟩ := Nat.exists_eq_add_of_le' (Nat.one_le_of_lt hn)
    exact Machine.run_succ_within hf ha fun _ => ih rfl (by omega)
  | back ha hr _ ih =>
    obtain ⟨n, rfl⟩ := Nat.exists_eq_add_of_le' (Nat.one_le_of_lt hn)
    refine Machine.run_succ_within hf ha fun _ => ?_
    rw [Machine.perform, Machine.handOver, hr]
    exact ih rfl (by omega)
  | asks ha =>
    obtain ⟨n, rfl⟩ := Nat.exists_eq_add_of_le' hn
    refine Machine.run_succ_within hf ha fun hl => ?_
    rw [Nat.add_zero, Machine.within_of_not_exhausted hl, List.append_nil, Array.appendList_nil]
    rfl
  | ends ha =>
    obtain ⟨n, rfl⟩ := Nat.exists_eq_add_of_le' hn
    refine Machine.run_succ_within hf ha fun hl => ?_
    rw [Nat.add_zero, Machine.within_of_not_exhausted hl, List.append_nil, Array.appendList_nil]
    rfl
  | stuck ha hr =>
    obtain ⟨n, rfl⟩ := Nat.exists_eq_add_of_le' hn
    refine Machine.run_succ_within hf ha fun hl => ?_
    rw [Nat.add_zero, Machine.within_of_not_exhausted hl, Machine.perform, Machine.handOver, hr]
    rfl

end Passage

namespace Turn

variable {env : Env κ} {k fuel : Nat} {stack : CallStack} {entry : Entry} {frames : List Activation}
  {journal : Array Event} {said : List Value} {queued : List PendingYield} {fin : Finale}

lemma shown_play_passage (he : enter env stack entry {} = .ok () { frames, journal })
    (h : Passage env k frames said queued fin) (hk : k ≤ fuel) :
    (play env fuel stack entry).map shown = some (env.within k (fin.report said.toArray queued)) := by
  rw [shown_play, he]
  have hr := h.run (m := { frames, journal }) rfl hk
  simpa using hr

lemma enter_resume_cases (env : Env κ) (stack : CallStack) (input : Option Value) :
    (∃ e m, enter env stack (.resume input) {} = .error e m) ∨
      (∀ f ∈ stack.frames, f.stopAt ≠ none) ∧ ∃ (key : String) (index : Nat) (store : Option (Update κ)),
        stack.innermost.stopAt = some key ∧
        (env.book.script stack.innermost.script).commands[index]? = some (.ask key store) := by
  by_cases hs : ∀ f ∈ stack.frames, f.stopAt ≠ none
  · obtain ⟨key, hk⟩ := Option.ne_none_iff_exists'.mp (hs stack.innermost List.mem_cons_self)
    cases ha : (env.book.script stack.innermost.script).asking key with
    | error e =>
      left
      exact ⟨e, entered stack, enter_unasked input hs hk ha⟩
    | ok place => exact .inr ⟨hs, key, place.1, place.2, hk, Script.asking_eq_ok_iff.mp ha⟩
  · left
    push Not at hs
    have hm : ∃ reason, Misshapen env.book stack (.resume input) reason := exists_misshapen_iff.mpr hs
    obtain ⟨reason, hm⟩ := hm
    exact ⟨_, _, enter_misshapen hm⟩

lemma enter_resume_past {key : String} {index : Nat} {store : Option (Update κ)} {vars : Value}
    (input : Option Value) (hs : ∀ f ∈ stack.frames, f.stopAt ≠ none)
    (hk : stack.innermost.stopAt = some key)
    (hc : (env.book.script stack.innermost.script).commands[index]? = some (.ask key store))
    (hv : (activate stack.innermost).stored env store input = .ok vars) :
    ∃ journal, enter env stack (.resume input) {} = .ok ()
      { frames := (activate stack.innermost).past index vars :: stack.callers.map activate, journal } := by
  have he := enter_asked input hs hk (Script.asking_eq_ok_iff.mpr hc)
  rw [hv] at he
  exact ⟨_, he⟩

end Turn

end Dialogue
