import Dialogue.Proofs.RunError
import Dialogue.Proofs.Run

/-! The trail of a run: the frames at each of its steps. What the run adds to the contents, to the queue and to
the journal can be read off the trail. -/

namespace Dialogue

variable {κ : Kinds}

structure Moment where
  frame : Activation
  callers : List Activation

namespace Command

def speaks : Command κ → Bool
  | say _ => true
  | _ => false

def emits : Command κ → Bool
  | effect _ emit => emit.isSome
  | _ => false

end Command

namespace Moment

variable (env : Env κ)

def command? (t : Moment) : Option (Command κ) := t.frame.command? env

def context (t : Moment) : Context := Machine.contextOf env t.frame

def speaks (t : Moment) : Bool := (t.command? env).any Command.speaks

def emits (t : Moment) : Bool := (t.command? env).any Command.emits

def Speaks (t : Moment) (value : Value) : Prop :=
  ∃ content, t.command? env = some (.say content) ∧ content.answer env (t.context env) = .ok value

def Queues (t : Moment) (y : PendingYield) : Prop :=
  -- The context has the variables that the effect itself has just set.
  ∃ store emit vars, t.command? env = some (.effect store (some emit)) ∧
    Hook.answer? env store (t.context env) = .ok vars ∧
    (emit.resolve env.scope env.thread.uid).2 = .ok y.routine ∧
    y.context = ⟨env.thread, vars.getD t.frame.vars, (env.book.script t.frame.script).info⟩

def events (t : Moment) : List Event :=
  -- The hook that gives out a value is resolved and not called.
  t.frame.events env ++
    match t.frame.action env, t.callers with
    | .ok (.leave _), caller :: _ => caller.receipt env
    | _, _ => []

end Moment

namespace Action

def said : Action → List Value
  | go _ said _ => said
  | _ => []

def queued : Action → List PendingYield
  | go _ _ queued => queued
  | _ => []

end Action

namespace Activation

variable {env : Env κ} {f : Activation} {callers : List Activation} {a : Action}

lemma silent_adds (callers : List Activation) (hs : (f.command? env).any Command.speaks = false)
    (he : (f.command? env).any Command.emits = false) :
    List.Forall₂ (Moment.Speaks env) ([⟨f, callers⟩].filter (Moment.speaks env)) [] ∧
    List.Forall₂ (Moment.Queues env) ([⟨f, callers⟩].filter (Moment.emits env)) [] := by
  simp [Moment.speaks, Moment.emits, Moment.command?, hs, he]

lemma say_adds {content : Query κ} {value : Value} (callers : List Activation)
    (hc : f.command? env = some (.say content))
    (hv : content.answer env (Machine.contextOf env f) = .ok value) :
    List.Forall₂ (Moment.Speaks env) ([⟨f, callers⟩].filter (Moment.speaks env)) [value] ∧
    List.Forall₂ (Moment.Queues env) ([⟨f, callers⟩].filter (Moment.emits env)) [] := by
  have hs : Moment.speaks env ⟨f, callers⟩ = true := by
    simp [Moment.speaks, Moment.command?, hc, Command.speaks]
  have he : Moment.emits env ⟨f, callers⟩ = false := by
    simp [Moment.emits, Moment.command?, hc, Command.emits]
  rw [List.filter_cons_of_pos hs, List.filter_cons_of_neg (by simp [he])]
  exact ⟨.cons ⟨content, hc, hv⟩ .nil, .nil⟩

lemma effect_adds {store : Option (Query κ)} {emit : Option (Update κ)} {vars : Option Value}
    {queued : List PendingYield} (callers : List Activation)
    (hc : f.command? env = some (.effect store emit))
    (hv : Hook.answer? env store (Machine.contextOf env f) = .ok vars)
    (hq : Hook.queued env emit (Machine.contextOf env (f.withVars vars)) = .ok queued) :
    List.Forall₂ (Moment.Speaks env) ([⟨f, callers⟩].filter (Moment.speaks env)) [] ∧
    List.Forall₂ (Moment.Queues env) ([⟨f, callers⟩].filter (Moment.emits env)) queued := by
  cases emit with
  | none =>
    cases hq
    exact silent_adds callers (by simp [hc, Command.speaks]) (by simp [hc, Command.emits])
  | some hook =>
    have hs : Moment.speaks env ⟨f, callers⟩ = false := by
      simp [Moment.speaks, Moment.command?, hc, Command.speaks]
    have he : Moment.emits env ⟨f, callers⟩ = true := by
      simp [Moment.emits, Moment.command?, hc, Command.emits]
    simp only [Hook.queued] at hq
    split at hq
    · cases hq
    · next routine hr =>
      cases hq
      rw [List.filter_cons_of_pos he, List.filter_cons_of_neg (by simp [hs])]
      exact ⟨.nil, .cons ⟨store, hook, vars, hc, hv, hr, rfl⟩ .nil⟩

lemma action_adds (callers : List Activation) (h : f.action env = .ok a) :
    List.Forall₂ (Moment.Speaks env) ([⟨f, callers⟩].filter (Moment.speaks env)) a.said ∧
    List.Forall₂ (Moment.Queues env) ([⟨f, callers⟩].filter (Moment.emits env)) a.queued := by
  have hsilent := @silent_adds κ env f callers
  cases hc : f.command? env with
  | none =>
    simp only [action, hc] at h hsilent
    cases h
    exact hsilent rfl rfl
  | some c =>
    simp only [action, hc] at h hsilent
    cases c with
    | say content =>
      obtain ⟨value, hv, h⟩ := bind_eq_ok.mp h
      obtain ⟨f', -, h⟩ := bind_eq_ok.mp h
      cases h
      exact say_adds callers hc hv
    | ask key store =>
      cases h
      exact hsilent rfl rfl
    | call key callee entry params store =>
      obtain ⟨given, -, h⟩ := bind_eq_ok.mp h
      obtain ⟨index, -, h⟩ := bind_eq_ok.mp h
      cases h
      exact hsilent rfl rfl
    | jump offset =>
      obtain ⟨f', -, h⟩ := bind_eq_ok.mp h
      cases h
      exact hsilent rfl rfl
    | branch condition negated offset =>
      obtain ⟨holds, -, h⟩ := bind_eq_ok.mp h
      obtain ⟨f', -, h⟩ := bind_eq_ok.mp h
      cases h
      exact hsilent rfl rfl
    | finish value =>
      obtain ⟨v, -, h⟩ := bind_eq_ok.mp h
      cases h
      exact hsilent rfl rfl
    | effect store emit =>
      obtain ⟨vars, hv, h⟩ := bind_eq_ok.mp h
      obtain ⟨queued, hq, h⟩ := bind_eq_ok.mp h
      obtain ⟨f', -, h⟩ := bind_eq_ok.mp h
      cases h
      exact effect_adds callers hc hv hq

end Activation

namespace Machine

variable (env : Env κ)

instance (m : Machine) : Decidable (Exhausted env m) :=
  inferInstanceAs (Decidable (∃ limit ∈ env.limit, limit ≤ m.steps))

def trail : Nat → Machine → List Moment
  -- A step that the limit refuses is no moment.
  | 0, _ => []
  | n + 1, m =>
    match m.frames with
    | [] => []
    | f :: callers =>
      if Exhausted env m then []
      else ⟨f, callers⟩ ::
        match step env m with
        | .ok .running m' => trail n m'
        | _ => []

def left {α : Type} : EStateM.Result RunError Machine α → Machine
  | .ok _ m => m
  | .error _ m => m

structure Adds (ts : List Moment) (m m' : Machine) : Prop where
  contents : ∃ said : List Value, m'.contents = m.contents ++ said ∧
    List.Forall₂ (Moment.Speaks env) (ts.filter (Moment.speaks env)) said
  yields : ∃ queued : List PendingYield, m'.yields = m.yields ++ queued ∧
    List.Forall₂ (Moment.Queues env) (ts.filter (Moment.emits env)) queued
  journal : m'.journal = m.journal ++ ts.flatMap (Moment.events env)

variable {env} {k n : Nat} {m m' m'' : Machine} {f : Activation} {callers : List Activation}
  {status : Status} {ts ts' : List Moment}

lemma Adds.refl (m : Machine) : Adds env [] m m where
  contents := ⟨[], by simp, .nil⟩
  yields := ⟨[], by simp, .nil⟩
  journal := by simp

lemma Adds.trans (h : Adds env ts m m') (h' : Adds env ts' m' m'') : Adds env (ts ++ ts') m m'' := by
  obtain ⟨⟨said, hc, hs⟩, ⟨queued, hy, hq⟩, hj⟩ := h
  obtain ⟨⟨said', hc', hs'⟩, ⟨queued', hy', hq'⟩, hj'⟩ := h'
  refine ⟨⟨said ++ said', ?_, ?_⟩, ⟨queued ++ queued', ?_, ?_⟩, ?_⟩
  · simp [hc', hc, ← Array.toList_inj]
  · rw [List.filter_append]
    exact List.rel_append hs hs'
  · simp [hy', hy, ← Array.toList_inj]
  · rw [List.filter_append]
    exact List.rel_append hq hq'
  · simp [hj', hj, ← Array.toList_inj]

lemma not_exhausted_of_ok (h : step env m = .ok status m') : ¬ Exhausted env m := by
  rintro ⟨limit, hl, hs⟩
  simp [step_exhausted env hl hs] at h

lemma frames_of_running (h : step env m = .ok .running m') : ∃ f callers, m.frames = f :: callers := by
  cases hf : m.frames with
  | cons f callers => exact ⟨f, callers, rfl⟩
  | nil =>
    -- Without a frame the step completes nothing and says that the run has ended.
    have hc : count env m = .ok () m.counted := count_eq (not_exhausted_of_ok h)
    have hn : next? env m.counted = none := by simp [next?, counted, hf]
    have he : complete env none m.counted = .ok (.ended none) m.counted := by
      rw [complete, bind_get]
      simp only [counted, hf]
      rfl
    rw [step, bind_ok hc, bind_get, hn] at h
    cases he.symm.trans h

lemma step_scripts {P : ScriptId → Prop} (hP : ∀ i, P i → ∀ j ∈ (env.book.script i).callees, P j)
    (hm : ∀ f ∈ m.frames, P f.script) (h : step env m = .ok .running m') : ∀ f ∈ m'.frames, P f.script := by
  obtain ⟨f, callers, hf⟩ := frames_of_running h
  obtain ⟨a, ha, hp⟩ := step_eq_ok hf h
  have hi := Activation.action_eq_ok ha
  rw [hf] at hm
  obtain ⟨hpf, hpc⟩ := List.forall_mem_cons.mp hm
  cases a with
  | go f' said queued =>
    cases hp
    exact List.forall_mem_cons.mpr ⟨hi.1 ▸ hpf, hpc⟩
  | wait key => cases hp
  | enter key child =>
    cases hp
    obtain ⟨entry, params, store, hc⟩ := hi
    have hchild : P child.script := by
      apply hP f.script hpf
      exact List.mem_filterMap.mpr ⟨_, List.mem_of_getElem? hc, rfl⟩
    exact List.forall_mem_cons.mpr ⟨hchild, List.forall_mem_cons.mpr ⟨hpf, hpc⟩⟩
  | leave value =>
    cases callers with
    | nil => cases hp
    | cons c rest =>
      simp only [perform, handOver] at hp
      split at hp
      · cases hp
      · next c' hr =>
        cases hp
        obtain ⟨key, index, store, vars, -, -, -, rfl⟩ := Activation.receive_eq_ok hr
        obtain ⟨hc, hrest⟩ := List.forall_mem_cons.mp hpc
        exact List.forall_mem_cons.mpr ⟨hc, hrest⟩

lemma step_journal (hl : ¬ Exhausted env m) (hf : m.frames = f :: callers) :
    (left (step env m)).journal = m.journal ++ Moment.events env ⟨f, callers⟩ := by
  have hp := step_performs env hl hf
  have hj : (m.counted.noted (f.events env)).journal = m.journal ++ f.events env := rfl
  generalize step env m = r at hp
  rw [Moment.events]
  cases ha : f.action env with
  | error e =>
    rw [ha] at hp
    cases hp with
    | fails h => simp [left, h, hj]
  | ok a =>
    rw [ha] at hp
    cases hp with
    | acts h =>
      subst h
      cases a with
      | go f' said queued => simp [perform, left, hj]
      | wait key => simp [perform, left, hj]
      | enter key child => simp [perform, left, hj]
      | leave value =>
        cases callers with
        | nil => simp [perform, handOver, left, hj]
        | cons c rest =>
          simp only [perform, handOver]
          -- The hook of the caller is noted also where the caller cannot take the value.
          cases c.receive env value <;> simp [left, noted, counted, ← Array.toList_inj]

lemma perform_outputs {a : Action} (h : perform env f callers m a = .ok status m') :
    m'.contents = m.contents ++ a.said ∧ m'.yields = m.yields ++ a.queued ∧ m'.steps = m.steps := by
  cases a with
  | go f' said queued =>
    cases h
    exact ⟨rfl, rfl, rfl⟩
  | wait key =>
    cases h
    simp [Action.said, Action.queued]
  | enter key child =>
    cases h
    simp [Action.said, Action.queued]
  | leave value =>
    cases callers with
    | nil =>
      cases h
      simp [Action.said, Action.queued]
    | cons c rest =>
      simp only [perform, handOver] at h
      split at h <;> cases h
      simp [Action.said, Action.queued]

lemma step_adds (hf : m.frames = f :: callers) (h : step env m = .ok status m') :
    Adds env [⟨f, callers⟩] m m' ∧ m'.steps = m.steps + 1 := by
  obtain ⟨a, ha, hp⟩ := step_eq_ok hf h
  obtain ⟨hs, hq⟩ := Activation.action_adds callers ha
  obtain ⟨hc, hy, hn⟩ := perform_outputs hp
  have hj := step_journal (not_exhausted_of_ok h) hf
  rw [h] at hj
  exact ⟨⟨⟨a.said, hc, hs⟩, ⟨a.queued, hy, hq⟩, by simpa [left] using hj⟩, hn⟩

lemma trail_succ_of_running (hf : m.frames = f :: callers) (h : step env m = .ok .running m') :
    trail env (n + 1) m = ⟨f, callers⟩ :: trail env n m' := by
  rw [trail]
  simp [hf, h, not_exhausted_of_ok h]

lemma trail_last (hl : ¬ Exhausted env m) (hf : m.frames = f :: callers)
    (hs : ∀ m', step env m ≠ .ok .running m') : trail env (n + 1) m = [⟨f, callers⟩] := by
  rw [trail]
  simp [hf, hl]

lemma trail_exhausted (hl : Exhausted env m) : trail env n m = [] := by
  cases n with
  | zero => rfl
  | succ n =>
    rw [trail]
    split
    · rfl
    · exact if_pos hl

lemma Steps.trail_add (h : Steps env k m m') (n : Nat) :
    trail env (k + n) m = trail env k m ++ trail env n m' := by
  induction h with
  | zero m => simp [trail]
  | @succ k m₁ m₂ m₃ hs _ ih =>
    obtain ⟨f, callers, hf⟩ := frames_of_running hs
    rw [Nat.add_right_comm, trail_succ_of_running hf hs, trail_succ_of_running hf hs, ih, List.cons_append]

lemma Steps.trail_length (h : Steps env k m m') : (trail env k m).length = k := by
  induction h with
  | zero m => rfl
  | succ hs _ ih =>
    obtain ⟨f, callers, hf⟩ := frames_of_running hs
    rw [trail_succ_of_running hf hs, List.length_cons, ih]

lemma Steps.adds (h : Steps env k m m') : Adds env (trail env k m) m m' ∧ m'.steps = m.steps + k := by
  induction h with
  | zero m => exact ⟨.refl m, rfl⟩
  | succ hs _ ih =>
    obtain ⟨f, callers, hf⟩ := frames_of_running hs
    obtain ⟨ha, hn⟩ := step_adds hf hs
    rw [trail_succ_of_running hf hs]
    exact ⟨ha.trans ih.1, by omega⟩

end Machine

end Dialogue
