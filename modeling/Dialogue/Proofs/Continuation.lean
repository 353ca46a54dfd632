import Dialogue.Coffee.Turn
import Dialogue.Proofs.Action
import Dialogue.Proofs.Registry
import Dialogue.Proofs.Run
import Dialogue.Proofs.Turn

/-! What a dialogue leaves between its turns can be resumed: each frame waits at a call of the frame above
it, and the innermost one at a question. -/

namespace Dialogue

variable {κ : Kinds}

namespace Frame

variable (book : Playbook κ)

def Awaits (f : Frame) (callee : ScriptId) : Prop :=
  ∃ key index entry params store, f.stopAt = some key ∧
    (book.script f.script).stopIndex? key = some index ∧
    (book.script f.script).commands[index]? = some (.call key callee entry params store)

def Asks (f : Frame) : Prop :=
  ∃ key index store, f.stopAt = some key ∧
    (book.script f.script).stopIndex? key = some index ∧
    (book.script f.script).commands[index]? = some (.ask key store)

end Frame

inductive Chain (book : Playbook κ) (root : ScriptId) : ScriptId → List Frame → Prop
  -- Each frame waits at a call of what runs above it, and the last one runs the root.
  | root : Chain book root root []
  | call {inner : ScriptId} {f : Frame} {callers : List Frame} : f.Awaits book inner →
      Chain book root f.script callers → Chain book root inner (f :: callers)

structure CallStack.WellFormed (book : Playbook κ) (root : ScriptId) (stack : CallStack) : Prop where
  asks : stack.innermost.Asks book
  chain : Chain book root stack.innermost.script stack.callers

def Activation.atRest (f : Activation) : Frame := ⟨f.script, f.vars, f.stopAt⟩

namespace Machine

def Linked (book : Playbook κ) (root : ScriptId) (m : Machine) : Prop :=
  ∃ f callers, m.frames = f :: callers ∧ Chain book root f.script (callers.map Activation.atRest)

def Keeps (book : Playbook κ) (root : ScriptId) : EStateM.Result RunError Machine Status → Prop
  | .ok .running m => m.Linked book root
  | .ok .waiting m => ∃ stack, CallStack.ofFrames? m.atRest = some stack ∧ stack.WellFormed book root
  | _ => True

end Machine

variable {book : Playbook κ} {root : ScriptId}

lemma Frame.Awaits.calls {f : Frame} {callee : ScriptId} (h : f.Awaits book callee) :
    book.Calls f.script callee := by
  obtain ⟨key, index, entry, params, store, -, -, hc⟩ := h
  exact List.mem_filterMap.mpr ⟨_, List.mem_of_getElem? hc, rfl⟩

lemma Frame.Awaits.stopAt_ne {f : Frame} {callee : ScriptId} (h : f.Awaits book callee) :
    f.stopAt ≠ none := by
  obtain ⟨key, index, entry, params, store, hk, -⟩ := h
  simp [hk]

namespace Chain

variable {inner : ScriptId} {callers : List Frame}

lemma reaches (h : Chain book root inner callers) : book.Reaches root inner := by
  induction h with
  | root => exact .refl
  | call ha _ ih => exact ih.tail ha.calls

lemma caller_reaches (h : Chain book root inner callers) :
    ∀ f ∈ callers, book.Reaches root f.script := by
  induction h with
  | root => simp
  | call ha hc ih => exact List.forall_mem_cons.mpr ⟨hc.reaches, ih⟩

lemma stopAt_ne (h : Chain book root inner callers) : ∀ f ∈ callers, f.stopAt ≠ none := by
  induction h with
  | root => simp
  | call ha _ ih => exact List.forall_mem_cons.mpr ⟨ha.stopAt_ne, ih⟩

end Chain

namespace Machine

variable {env : Env κ} {m : Machine} {f : Activation} {callers : List Activation}

lemma awaits_of_call {key : String} {callee : ScriptId} {entry : Option String}
    {params : Option (Query κ)} {store : Option (Update κ)}
    (hc : f.command? env = some (.call key callee entry params store)) :
    ({ f with stopAt := some key } : Activation).atRest.Awaits env.book callee :=
  ⟨key, f.index, entry, params, store, rfl,
    Script.stopIndex?_eq_some_iff.mpr ⟨_, hc, rfl⟩, hc⟩

lemma asks_of_ask {key : String} {store : Option (Update κ)}
    (hc : f.command? env = some (.ask key store)) :
    ({ f with stopAt := some key } : Activation).atRest.Asks env.book :=
  ⟨key, f.index, store, rfl, Script.stopIndex?_eq_some_iff.mpr ⟨_, hc, rfl⟩, hc⟩

lemma perform_keeps {a : Action} (hc : Chain env.book root f.script (callers.map Activation.atRest))
    (ha : f.action env = .ok a) : Keeps env.book root (perform env f callers m a) := by
  have hi := Activation.action_eq_ok ha
  cases a with
  | go f' said queued => exact ⟨f', callers, rfl, by rw [hi.1]; exact hc⟩
  | wait key =>
    obtain ⟨store, hi⟩ := hi
    exact ⟨⟨_, _⟩, rfl, asks_of_ask hi, hc⟩
  | enter key child =>
    obtain ⟨entry, params, store, hi⟩ := hi
    exact ⟨child, { f with stopAt := some key } :: callers, rfl, .call (awaits_of_call hi) hc⟩
  | leave value =>
    cases callers with
    | nil => trivial
    | cons c rest =>
      simp only [perform, handOver]
      cases hr : c.receive env value with
      | error e => trivial
      | ok c' =>
        obtain ⟨key, index, store, vars, -, -, -, rfl⟩ := Activation.receive_eq_ok hr
        -- The caller stays in its script, so the rest of the chain is below it as before.
        cases hc with
        | call _ hc => exact ⟨_, rest, rfl, hc⟩

lemma step_keeps (hl : m.Linked env.book root) : Keeps env.book root (step env m) := by
  obtain ⟨f, callers, hf, hc⟩ := hl
  by_cases he : Exhausted env m
  · obtain ⟨limit, hn, hs⟩ := he
    rw [step_exhausted env hn hs]
    trivial
  · have hp := step_performs env he hf
    generalize ha : f.action env = a at hp
    generalize step env m = r at hp
    cases hp with
    | fails _ => trivial
    | acts h => exact h ▸ perform_keeps hc ha

lemma Linked.steps {k : Nat} {m' : Machine} (h : m.Linked env.book root) (hs : Steps env k m m') :
    m'.Linked env.book root :=
  hs.invariant (fun m₁ m₂ hl he => by simpa [he, Keeps] using step_keeps hl) h

lemma run_keeps {n : Nat} {r : EStateM.Result RunError Machine Status}
    (h : run env n m = some r) (hl : m.Linked env.book root) : Keeps env.book root r := by
  obtain ⟨k, m', -, hs, hr, -⟩ := run_eq_some h
  exact hr ▸ step_keeps (hl.steps hs)

end Machine

namespace Turn

inductive Occurs (book : Playbook κ) (root : ScriptId) : CallStack → Entry → Prop
  -- Services, thread and limit may change between turns.
  | start (params : Option Value) : Occurs book root (CallStack.root book root params) .fresh
  | resume {stack stack' : CallStack} {entry : Entry} {scope : Scope κ} {thread : Thread}
      {limit : Option Nat} {fuel : Nat} {o : Outcome} {m : Machine} (input : Option Value) :
      Occurs book root stack entry →
      play ⟨book, scope, thread, limit⟩ fuel stack entry = some (.ok o m) →
      o.stack = some stack' → Occurs book root stack' (.resume input)

variable {env : Env κ} {stack : CallStack} {entry : Entry} {m : Machine}

lemma map_atRest_activate (frames : List Frame) :
    (frames.map activate).map Activation.atRest = frames := by
  simp [Function.comp_def, activate, Activation.atRest]

lemma frames_stopAt_ne (h : stack.WellFormed book root) : ∀ f ∈ stack.frames, f.stopAt ≠ none := by
  obtain ⟨key, index, store, hk, -⟩ := h.asks
  exact List.forall_mem_cons.mpr ⟨by simp [hk], h.chain.stopAt_ne⟩

lemma enter_resume_linked {input : Option Value} (h : stack.WellFormed env.book root)
    (he : enter env stack (.resume input) {} = .ok () m) : m.Linked env.book root := by
  obtain ⟨key, index, store, hk, -, hc⟩ := h.asks
  rw [enter_resume input (frames_stopAt_ne h) hk hc, Machine.answer_eq env index store input rfl] at he
  split at he
  · next vars _ =>
    obtain ⟨-, rfl⟩ := EStateM.Result.ok.inj he
    exact ⟨_, _, rfl, by rw [map_atRest_activate]; exact h.chain⟩
  · simp at he

def Enters (book : Playbook κ) (root : ScriptId) (stack : CallStack) : Entry → Prop
  | .fresh => ∃ params, stack = CallStack.root book root params
  | .resume _ => stack.WellFormed book root

lemma enter_linked (h : Enters env.book root stack entry)
    (he : enter env stack entry {} = .ok () m) : m.Linked env.book root := by
  cases entry with
  | fresh =>
    obtain ⟨params, rfl⟩ := h
    rw [enter_root] at he
    obtain ⟨-, rfl⟩ := EStateM.Result.ok.inj he
    exact ⟨_, [], rfl, .root⟩
  | resume input => exact enter_resume_linked h he

lemma play_cases {fuel : Nat} {o : Outcome} (h : Enters env.book root stack entry)
    (hp : play env fuel stack entry = some (.ok o m)) :
    (o.finished = true ∧ o.stack = none) ∨
    ∃ stack', o.finished = false ∧ o.returned = none ∧ o.stack = some stack' ∧
      stack'.WellFormed env.book root := by
  obtain ⟨m₀, m₁, status, yielded, he, hr, rfl, -⟩ := play_eq_ok hp
  have hk := Machine.run_keeps hr (enter_linked h he)
  cases status with
  | ended value => exact .inl ⟨rfl, rfl⟩
  | waiting =>
    obtain ⟨stack', hs, hw⟩ := hk
    exact .inr ⟨stack', rfl, rfl, hs, hw⟩
  | running =>
    obtain ⟨k, m', -, -, -, hne⟩ := Machine.run_eq_some hr
    exact absurd rfl (hne m₁)

lemma Occurs.enters (h : Occurs book root stack entry) : Enters book root stack entry := by
  induction h with
  | start params => exact ⟨params, rfl⟩
  | resume input _ hp hs ih =>
    rcases play_cases ih hp with ⟨-, hn⟩ | ⟨stack₁, -, -, h₁, hw⟩
    · simp [hn] at hs
    · obtain rfl := Option.some.inj (h₁.symm.trans hs)
      exact hw

lemma question_reached {stack : CallStack} (h : stack.WellFormed book root) :
    ∃ i key store, book.Reaches root i ∧ Command.ask key store ∈ (book.script i).commands := by
  obtain ⟨key, index, store, -, -, hc⟩ := h.asks
  exact ⟨_, key, store, h.chain.reaches, List.mem_of_getElem? hc⟩

theorem outcome_wellFormed {scope : Scope κ} {thread : Thread} {limit : Option Nat} {fuel : Nat}
    {o : Outcome} (h : Occurs book root stack entry)
    (hp : play ⟨book, scope, thread, limit⟩ fuel stack entry = some (.ok o m)) :
    (o.stack = none ↔ o.finished = true) ∧ (o.returned ≠ none → o.finished = true) ∧
    (∀ stack', o.stack = some stack' → stack'.WellFormed book root) ∧
    ((∀ i, book.Reaches root i → ∀ key store, .ask key store ∉ (book.script i).commands) →
      o.finished = true) := by
  rcases play_cases h.enters hp with ⟨hf, hn⟩ | ⟨stack₁, hf, hret, h₁, hw⟩
  · simp [hf, hn]
  · refine ⟨by simp [hf, h₁], fun hne => absurd hret hne, ?_, ?_⟩
    · intro stack' hs
      obtain rfl := Option.some.inj (h₁.symm.trans hs)
      exact hw
    · intro hq
      obtain ⟨i, key, store, hi, hm⟩ := question_reached hw
      exact absurd hm (hq i hi key store)

end Turn

namespace Coffee

def drinkAsked : CallStack :=
  ⟨⟨0, .obj [], some "drink"⟩, [⟨1, .obj [("orders", .arr [])], some "choose"⟩]⟩

lemma first_turn : ∃ o m,
    Turn.play (env none ⟨"cli", "guest"⟩) 4 (CallStack.root Coffee.book Coffee.root none) .fresh =
      some (.ok o m) ∧ o.stack = some drinkAsked :=
  Turn.left?_eq_some (by cbv)

end Coffee

namespace Turn

theorem coffee_outcome_wellFormed : ∃ o m,
    play (Coffee.env none ⟨"cli", "guest"⟩) 4
      (CallStack.root Coffee.book Coffee.root none) .fresh = some (.ok o m) ∧
    o.stack = some Coffee.drinkAsked ∧ Coffee.drinkAsked.WellFormed Coffee.book Coffee.root := by
  obtain ⟨o, m, hp, hs⟩ := Coffee.first_turn
  exact ⟨o, m, hp, hs, (outcome_wellFormed (.start none) hp).2.2.1 _ hs⟩

end Turn

end Dialogue
