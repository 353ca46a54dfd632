import Dialogue.Proofs.Evaluation

/-! A step read off the innermost frame: what its command does there, and what the machine makes of it. -/

namespace Dialogue

variable {κ : Kinds}

inductive Action
  -- Something may be said or queued before.
  | go (f : Activation) (said : List Value) (queued : List PendingYield)
  | wait (key : String)
  | enter (key : String) (child : Activation)
  | leave (value : Option Value)

def Command.offset? : Command κ → Option Int64
  | jump offset => some offset
  | branch _ _ offset => some offset
  | _ => none

namespace Activation

variable (env : Env κ)

def command? (f : Activation) : Option (Command κ) := (env.book.script f.script).commands[f.index]?

def withVars (f : Activation) (vars : Option Value) : Activation :=
  { f with vars := vars.getD f.vars }

def act (f : Activation) : Command κ → Except RunError Action
  | .say content => do
    let value ← content.answer env (Machine.contextOf env f)
    return .go (← f.jump env 1) [value] []
  | .ask key _ => return .wait key
  | .call key callee entry params _ => do
    let given ← Hook.answer? env params (Machine.contextOf env f)
    let index ← env.book.start callee entry
    return .enter key { script := callee, vars := (env.book.script callee).initVars given, index }
  | .jump offset => return .go (← f.jump env offset) [] []
  | .branch condition negated offset => do
    let holds ← condition.answer env (Machine.contextOf env f)
    return .go (← f.jump env (if holds != negated then offset else 1)) [] []
  | .finish value => return .leave (← Hook.answer? env value (Machine.contextOf env f))
  | .effect store emit => do
    let vars ← Hook.answer? env store (Machine.contextOf env f)
    let queued ← Hook.queued env emit (Machine.contextOf env (f.withVars vars))
    return .go (← (f.withVars vars).jump env 1) [] queued

def trace (f : Activation) : Command κ → List Event
  | .say content => content.trace env
  | .call _ _ _ params _ => Hook.trace? env params
  | .branch condition _ _ => condition.trace env
  | .finish value => Hook.trace? env value
  | .effect store emit => Hook.trace? env store ++
    match Hook.answer? env store (Machine.contextOf env f), emit with
    | .ok _, some hook => (hook.resolve env.scope env.thread.uid).1
    | _, _ => []
  | _ => []

def action (f : Activation) : Except RunError Action :=
  match f.command? env with
  | none => .ok (.leave none)
  | some c => f.act env c

def events (f : Activation) : List Event :=
  match f.command? env with
  | none => []
  | some c => f.trace env c

def receive (f : Activation) (value : Option Value) : Except RunError Activation :=
  match f.stopAt with
  | none => .error (.malformed (.noCall (env.book.script f.script).name))
  | some key =>
    match (env.book.script f.script).calling key with
    | .error e => .error e
    | .ok (index, store) => (f.stored env store value).map (f.past index)

def receipt (f : Activation) : List Event :=
  match f.stopAt with
  | none => []
  | some key =>
    match (env.book.script f.script).calling key with
    | .error _ => []
    | .ok (_, store) => Hook.trace? env store

variable {env} {f f' : Activation}

lemma bind_eq_ok {α β : Type} {x : Except RunError α} {k : α → Except RunError β} {b : β} :
    (x >>= k) = .ok b ↔ ∃ a, x = .ok a ∧ k a = .ok b := by
  cases x <;> simp [bind, Except.bind]

lemma go_eq_ok {g : Activation} {offset : Int64} {said : List Value} {queued : List PendingYield} {a : Action}
    (h : (do return Action.go (← g.jump env offset) said queued) = .ok a) :
    ∃ index, env.book.landing g.script g.index offset = .ok index ∧
      a = .go { g with index } said queued := by
  obtain ⟨g', hj, h⟩ := bind_eq_ok.mp h
  rw [jump] at hj
  cases hl : env.book.landing g.script g.index offset with
  | error e =>
    rw [hl] at hj
    cases hj
  | ok index =>
    rw [hl] at hj
    cases hj
    cases h
    exact ⟨index, rfl, rfl⟩

lemma action_eq_ok {a : Action} (h : f.action env = .ok a) :
    match a with
    | .go f' _ _ => f'.script = f.script ∧ ∃ c offset, f.command? env = some c ∧
      (offset = 1 ∨ c.offset? = some offset) ∧ env.book.landing f.script f.index offset = .ok f'.index
    | .wait key => ∃ store, f.command? env = some (.ask key store)
    | .enter key child =>
      ∃ entry params store, f.command? env = some (.call key child.script entry params store)
    | .leave _ => True := by
  cases hc : f.command? env with
  | none =>
    simp only [action, hc] at h
    exact (Except.ok.inj h) ▸ trivial
  | some c =>
    simp only [action, hc] at h
    cases c with
    | say content =>
      obtain ⟨value, -, h⟩ := bind_eq_ok.mp h
      obtain ⟨index, hl, rfl⟩ := go_eq_ok h
      exact ⟨rfl, _, 1, rfl, .inl rfl, hl⟩
    | ask key store => exact (Except.ok.inj h) ▸ ⟨store, rfl⟩
    | call key callee entry params store =>
      obtain ⟨given, -, h⟩ := bind_eq_ok.mp h
      obtain ⟨index, -, h⟩ := bind_eq_ok.mp h
      exact (Except.ok.inj h) ▸ ⟨entry, params, store, rfl⟩
    | jump offset =>
      obtain ⟨index, hl, rfl⟩ := go_eq_ok h
      exact ⟨rfl, _, offset, rfl, .inr rfl, hl⟩
    | branch condition negated offset =>
      obtain ⟨holds, -, h⟩ := bind_eq_ok.mp h
      obtain ⟨index, hl, rfl⟩ := go_eq_ok h
      refine ⟨rfl, _, _, rfl, ?_, hl⟩
      split
      · exact .inr rfl
      · exact .inl rfl
    | finish value =>
      obtain ⟨v, -, h⟩ := bind_eq_ok.mp h
      exact (Except.ok.inj h) ▸ trivial
    | effect store emit =>
      obtain ⟨vars, -, h⟩ := bind_eq_ok.mp h
      obtain ⟨queued, -, h⟩ := bind_eq_ok.mp h
      obtain ⟨index, hl, rfl⟩ := go_eq_ok h
      exact ⟨rfl, _, 1, rfl, .inl rfl, hl⟩

lemma receive_eq_ok {value : Option Value} (h : f.receive env value = .ok f') :
    ∃ key index store vars, f.stopAt = some key ∧
      (env.book.script f.script).calling key = .ok (index, store) ∧
      f.stored env store value = .ok vars ∧ f' = f.past index vars := by
  rw [receive] at h
  cases hk : f.stopAt with
  | none => simp [hk] at h
  | some key =>
    cases hc : (env.book.script f.script).calling key with
    | error e => simp [hk, hc] at h
    | ok target =>
      obtain ⟨index, store⟩ := target
      simp only [hk, hc] at h
      cases hv : f.stored env store value with
      | error e => simp [hv, Except.map] at h
      | ok vars =>
        rw [hv] at h
        exact ⟨key, index, store, vars, rfl, hc, hv, (Except.ok.inj h).symm⟩

end Activation

namespace Machine

variable (env : Env κ)

def handOver (callers : List Activation) (m : Machine) (value : Option Value) :
    EStateM.Result RunError Machine Status :=
  match callers with
  | [] => .ok (.ended value) { m with frames := [] }
  | c :: rest =>
    match c.receive env value with
    | .error e => .error e ({ m with frames := c :: rest }.noted (c.receipt env))
    | .ok c' => .ok .running ({ m with frames := c' :: rest }.noted (c.receipt env))

def perform (f : Activation) (callers : List Activation) (m : Machine) :
    Action → EStateM.Result RunError Machine Status
  | .go f' said queued => .ok .running { m with
      frames := f' :: callers, contents := m.contents ++ said, yields := m.yields ++ queued }
  | .wait key => .ok .waiting { m with frames := { f with stopAt := some key } :: callers }
  | .enter key child =>
    .ok .running { m with frames := child :: { f with stopAt := some key } :: callers }
  | .leave value => handOver env callers m value

inductive Performs (f : Activation) (callers : List Activation) (m : Machine) :
    Except RunError Action → EStateM.Result RunError Machine Status → Prop
  | acts {a r} : r = perform env f callers m a → Performs f callers m (.ok a) r
  | fails {e m'} : m'.journal = m.journal → Performs f callers m (.error e) (.error e m')

variable {m : Machine} {f : Activation} {callers : List Activation}

lemma advance_performs {m₁ : Machine} {f₁ : Activation} {said : List Value}
    {queued : List PendingYield} (offset : Int64) (hf : m₁.frames = f₁ :: callers)
    (hc : m₁.contents = m.contents ++ said) (hy : m₁.yields = m.yields ++ queued)
    (hs : m₁.steps = m.steps) (hj : m₁.journal = m.journal) :
    Performs env f callers m (do return .go (← f₁.jump env offset) said queued)
      (advance env offset m₁) := by
  rw [advance_eq env offset hf]
  cases f₁.jump env offset with
  | error e => exact .fails hj
  | ok f' => exact .acts (by simp [perform, hc, hy, hs, hj])

lemma settle_performs {α : Type} {x : Act α} {a : Except RunError α} {m₁ m₂ : Machine}
    {k : α → Except RunError Action} {k' : α → Act Status} (hx : x m₁ = m₂.settle a)
    (hj : ∀ e, a = .error e → m₂.journal = m.journal)
    (hk : ∀ y, a = .ok y → Performs env f callers m (k y) (k' y m₂)) :
    Performs env f callers m (a >>= k) ((x >>= k') m₁) := by
  cases a with
  | error e =>
    rw [bind_error hx]
    exact .fails (hj e rfl)
  | ok y =>
    rw [bind_ok hx]
    exact hk y rfl

lemma say_performs (content : Query κ) (hf : m.frames = f :: callers) :
    Performs env f callers (m.noted (f.trace env (.say content))) (f.act env (.say content))
      (say env content m) := by
  rw [say, Activation.act]
  refine settle_performs env (evaluate_eq env content hf) (fun _ _ => rfl) fun value _ => ?_
  exact advance_performs env 1 hf (by simp) (by simp) rfl rfl

lemma call_performs (key : String) (callee : ScriptId) (entry : Option String)
    (params : Option (Query κ)) (store : Option (Update κ)) (hf : m.frames = f :: callers) :
    Performs env f callers (m.noted (f.trace env (.call key callee entry params store)))
      (f.act env (.call key callee entry params store)) (call env key callee entry params m) := by
  rw [call, Activation.act]
  refine settle_performs env (evaluate?_eq env params hf) (fun _ _ => rfl) fun given _ => ?_
  -- What stands behind the look-up of the entry is the same for every start.
  have hp : ∀ index m₁, m₁ = m.noted (Hook.trace? env params) →
      Performs env f callers (m.noted (Hook.trace? env params))
        (.ok (.enter key { script := callee, vars := (env.book.script callee).initVars given, index }))
        ((do
          update fun f => { f with stopAt := some key }
          push { script := callee, vars := (env.book.script callee).initVars given, index }
          return .running : Act Status) m₁) := by
    rintro index m₁ rfl
    have hf' : (m.noted (Hook.trace? env params)).frames = f :: callers := hf
    rw [bind_ok (update_eq _ hf')]
    exact .acts rfl
  cases entry with
  | none => exact hp 0 _ rfl
  | some place =>
    cases hi : (env.book.script callee).stopIndex place with
    | error e =>
      simp only [Playbook.start, hi]
      exact .fails rfl
    | ok index =>
      simp only [Playbook.start, hi]
      exact hp index _ rfl

lemma branch_performs (condition : Condition κ) (negated : Bool) (offset : Int64)
    (hf : m.frames = f :: callers) :
    Performs env f callers (m.noted (f.trace env (.branch condition negated offset)))
      (f.act env (.branch condition negated offset)) (branch env condition negated offset m) := by
  rw [branch, Activation.act]
  refine settle_performs env (evaluate_eq env condition hf) (fun _ _ => rfl) fun holds _ => ?_
  exact advance_performs env _ hf (by simp) (by simp) rfl rfl

lemma complete_eq (value : Option Value) (hf : m.frames = f :: callers) :
    complete env value m = handOver env callers m value := by
  rw [complete, bind_get, hf]
  cases callers with
  | nil => rfl
  | cons c rest =>
    have hm : (modify fun m => { m with frames := c :: rest } : Act Unit) m =
      .ok () { m with frames := c :: rest } := rfl
    simp only [bind_ok hm, handOver, Activation.receive, Activation.receipt]
    cases hs : c.stopAt with
    | none =>
      simp only [noted_nil]
      rfl
    | some key =>
      cases hk : (env.book.script c.script).calling key with
      | error e =>
        simp only [hk, noted_nil]
        rfl
      | ok target =>
        obtain ⟨index, store⟩ := target
        have hf' : { m with frames := c :: rest }.frames = c :: rest := rfl
        have ha := absorb_eq env store value hf'
        simp only [hk]
        cases hv : c.stored env store value with
        | error e =>
          rw [hv] at ha
          rw [bind_error ha]
          rfl
        | ok vars =>
          rw [hv] at ha
          rw [bind_ok ha]
          rfl

lemma finish_performs (value : Option (Query κ)) (hf : m.frames = f :: callers) :
    Performs env f callers (m.noted (f.trace env (.finish value))) (f.act env (.finish value))
      (finish env value m) := by
  rw [finish, Activation.act]
  refine settle_performs env (evaluate?_eq env value hf) (fun _ _ => rfl) fun v _ => ?_
  have hf' : (m.noted (Hook.trace? env value)).frames = f :: callers := hf
  rw [complete_eq env v hf']
  exact .acts rfl

lemma perform_frames (frames : List Activation) (m : Machine) (a : Action) :
    perform env f callers { m with frames } a = perform env f callers m a := by
  cases a with
  | leave value => cases callers <;> rfl
  | _ => rfl

lemma Performs.of_frames (frames : List Activation) {a : Except RunError Action}
    {r : EStateM.Result RunError Machine Status}
    (h : Performs env f callers { m with frames } a r) : Performs env f callers m a r := by
  cases h with
  | acts h => exact .acts (h.trans (perform_frames env frames m _))
  | fails h => exact .fails h

lemma emit_performs (emit : Option (Update κ)) {f₁ : Activation} {m₁ : Machine}
    (hf : m₁.frames = f₁ :: callers) :
    Performs env f callers
      (m₁.noted (match emit with
        | none => []
        | some hook => (hook.resolve env.scope env.thread.uid).1))
      (do
        let queued ← Hook.queued env emit (contextOf env f₁)
        return .go (← f₁.jump env 1) [] queued)
      ((match emit with
        | none => advance env 1
        | some hook => do
          let routine ← resolve env hook
          let context ← context env
          modify fun m => { m with yields := m.yields.push ⟨routine, context⟩ }
          advance env 1 : Act Status) m₁) := by
  cases emit with
  | none => exact advance_performs env 1 hf (by simp) (by simp) rfl (by simp)
  | some hook =>
    have hr := resolve_eq env hook m₁
    cases hh : (hook.resolve env.scope env.thread.uid).2 with
    | error e =>
      rw [hh] at hr
      simp only [bind_error hr, Hook.queued, hh]
      exact .fails rfl
    | ok routine =>
      rw [hh] at hr
      have hf' : (m₁.noted (hook.resolve env.scope env.thread.uid).1).frames = f₁ :: callers := hf
      simp only [bind_ok hr, bind_ok (context_eq env hf'), Hook.queued, hh]
      exact advance_performs env 1 hf (by simp) (by simp) rfl rfl

lemma effect_performs (store : Option (Query κ)) (emit : Option (Update κ))
    (hf : m.frames = f :: callers) :
    Performs env f callers (m.noted (f.trace env (.effect store emit)))
      (f.act env (.effect store emit)) (effect env store emit m) := by
  rw [effect, Activation.act]
  refine settle_performs env (evaluate?_eq env store hf) (fun e he => ?_) fun vars hv => ?_
  · simp [Activation.trace, he]
  · have ht : f.trace env (.effect store emit) = Hook.trace? env store ++
        match emit with
        | none => []
        | some hook => (hook.resolve env.scope env.thread.uid).1 := by
      cases emit <;> simp [Activation.trace, hv]
    rw [ht, ← noted_noted]
    cases vars with
    | none => exact emit_performs env emit hf
    | some vars =>
      have hf' : (m.noted (Hook.trace? env store)).frames = f :: callers := hf
      have hf₁ : { m.noted (Hook.trace? env store) with
          frames := f.withVars (some vars) :: callers }.frames = f.withVars (some vars) :: callers := rfl
      simp only [bind_ok (update_eq _ hf')]
      exact Performs.of_frames env (f.withVars (some vars) :: callers) (emit_performs env emit hf₁)

lemma dispatch_performs (c : Command κ) (hf : m.frames = f :: callers) :
    Performs env f callers (m.noted (f.trace env c)) (f.act env c) (dispatch env c m) := by
  cases c with
  | say content => exact say_performs env content hf
  | ask key store =>
    simp only [dispatch, ask, bind_ok (update_eq _ hf), Activation.trace, noted_nil]
    exact .acts rfl
  | call key callee entry params store => exact call_performs env key callee entry params store hf
  | jump offset => exact advance_performs env offset hf (by simp) (by simp) rfl (by simp [Activation.trace])
  | branch condition negated offset => exact branch_performs env condition negated offset hf
  | finish value => exact finish_performs env value hf
  | effect store emit => exact effect_performs env store emit hf

def Exhausted (m : Machine) : Prop := ∃ limit, env.limit = some limit ∧ limit ≤ m.steps

def counted (m : Machine) : Machine := { m with steps := m.steps + 1 }

lemma step_exhausted {limit : Nat} (hl : env.limit = some limit) (hs : limit ≤ m.steps) :
    step env m = .error (.stepLimit limit) m := by
  have hc : count env m = .error (.stepLimit limit) m := by simp [count, hl, hs]
  rw [step, bind_error hc]

variable {env} in
lemma count_eq (hl : ¬ Exhausted env m) : count env m = .ok () m.counted := by
  cases hn : env.limit with
  | none => simp [count, hn, counted]
  | some limit =>
    have hs : ¬ limit ≤ m.steps := fun hs => hl ⟨limit, hn, hs⟩
    simp [count, hn, hs, counted]

lemma step_performs (hl : ¬ Exhausted env m) (hf : m.frames = f :: callers) :
    Performs env f callers (m.counted.noted (f.events env)) (f.action env) (step env m) := by
  have hc : count env m = .ok () m.counted := count_eq hl
  have hf' : m.counted.frames = f :: callers := hf
  have hn : next? env m.counted = f.command? env := by simp [next?, hf', Activation.command?]
  rw [step, bind_ok hc, bind_get, hn, Activation.action, Activation.events]
  cases f.command? env with
  | none =>
    simp only [complete_eq env none hf', noted_nil]
    exact .acts rfl
  | some c => exact dispatch_performs env c hf'

end Machine

end Dialogue
