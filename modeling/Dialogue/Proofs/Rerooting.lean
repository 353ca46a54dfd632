import Dialogue.Proofs.Extension

/-! A conversation outlives commands that are put in front of its root script: what is left of it can be taken up with
the longer script in its root frame. -/

namespace Dialogue

variable {κ : Kinds}

namespace CallStack

def outermost (stack : CallStack) : Frame := stack.callers.getLast?.getD stack.innermost

def reroot (new : ScriptId) (stack : CallStack) : CallStack :=
  match stack.callers.getLast? with
  | none => ⟨{ stack.innermost with script := new }, []⟩
  | some root => ⟨stack.innermost, stack.callers.dropLast ++ [{ root with script := new }]⟩

variable (new : ScriptId) (f root : Frame) (inner : List Frame)

lemma reroot_concat :
    (CallStack.mk f (inner ++ [root])).reroot new = ⟨f, inner ++ [{ root with script := new }]⟩ := by
  simp [reroot]

lemma outermost_concat : (CallStack.mk f (inner ++ [root])).outermost = root := by
  simp [outermost]

end CallStack

namespace Machine

variable (book : Playbook κ) (old new : ScriptId) (n : Nat)

inductive Shifted : Machine → Machine → Prop
  -- The place of a root frame that waits for others is not kept.
  | alone {m : Machine} (root : Activation) : m.frames = [root] → root.script = old →
      Shifted m { m with frames := [root.shifted new n] }
  | below {m : Machine} {f : Activation} (inner : List Activation) (root : Activation) (index : Nat)
      {key : String} {i : Nat} :
      m.frames = f :: (inner ++ [root]) → root.script = old → root.stopAt = some key →
      (book.script old).stopIndex? key = some i →
      Shifted m { m with frames := f :: (inner ++ [{ root with script := new, index }]) }

inductive Follows : EStateM.Result RunError Machine Status → EStateM.Result RunError Machine Status → Prop
  | runs {m m' : Machine} : Shifted book old new n m m' → Follows (.ok .running m) (.ok .running m')
  | waits {m m' : Machine} : Shifted book old new n m m' → Follows (.ok .waiting m) (.ok .waiting m')
  | ends (value : Option Value) (m : Machine) : Follows (.ok (.ended value) m) (.ok (.ended value) m)
  | fails {e : RunError} {m m' : Machine} : m'.journal = m.journal → Follows (.error e m) (.error e m')

def Overshoots {α : Type} (r : EStateM.Result RunError Machine α) : Prop :=
  ∃ script index offset m, r = .error (.jumpOutOfRange script index offset) m

variable {book old new n} {env : Env κ} {front : List (Command κ)} {m m' : Machine} {f root : Activation}

lemma Shifted.outputs (h : Shifted book old new n m m') :
    m'.contents = m.contents ∧ m'.yields = m.yields ∧ m'.journal = m.journal := by
  cases h <;> exact ⟨rfl, rfl, rfl⟩

lemma Shifted.stack (h : Shifted book old new n m m') :
    CallStack.ofFrames? m'.atRest = (CallStack.ofFrames? m.atRest).map (CallStack.reroot new) := by
  cases h with
  | alone root hf _ =>
    rw [atRest, atRest, hf]
    rfl
  | below inner root index hf _ _ _ =>
    simp only [atRest, hf, List.map_cons, List.map_append, List.map_nil, CallStack.ofFrames?, Option.map_some,
      CallStack.reroot_concat]

lemma perform_alone (hs : root.script = old) {a : Action} (ha : root.action env = .ok a) (m : Machine) :
    Follows env.book old new n (perform env root [] m a)
      (perform env (root.shifted new n) [] m (a.shifted new n)) := by
  have ho := Activation.action_eq_ok ha
  cases a with
  | go f' said queued => exact .runs (.alone f' rfl (ho.1.trans hs))
  | wait key => exact .waits (.alone { root with stopAt := some key } rfl hs)
  | enter key child =>
    obtain ⟨entry, params, store, hc⟩ := ho
    rw [Activation.command?, hs] at hc
    have hi : (env.book.script old).stopIndex? key = some root.index :=
      Script.stopIndex?_eq_some_iff.mpr ⟨_, hc, rfl⟩
    exact .runs (.below [] { root with stopAt := some key } _ rfl hs rfl hi)
  | leave value => exact .ends value _

lemma perform_below (h : env.book.Extends old new front) (hs : root.script = old) {key : String} {i : Nat}
    (hk : root.stopAt = some key) (hi : (env.book.script old).stopIndex? key = some i)
    (inner : List Activation) (index : Nat) (m : Machine) (a : Action) :
    Follows env.book old new front.length (perform env f (inner ++ [root]) m a)
      (perform env f (inner ++ [{ root with script := new, index }]) m a) := by
  cases a with
  | go f' said queued => exact .runs (.below inner root index rfl hs hk hi)
  | wait key => exact .waits (.below inner root index rfl hs hk hi)
  | enter key child => exact .runs (.below ({ f with stopAt := some key } :: inner) root index rfl hs hk hi)
  | leave value =>
    cases inner with
    -- The root frame takes the value at its call, and has a place again.
    | nil =>
      obtain ⟨hr, hj⟩ := Activation.receive_extends h hs hk hi index value
      simp only [perform, List.nil_append, handOver, hr, hj]
      cases hv : root.receive env value with
      | error e => exact .fails rfl
      | ok root' =>
        obtain ⟨-, -, -, -, -, -, -, rfl⟩ := Activation.receive_eq_ok hv
        exact .runs (.alone _ rfl hs)
    | cons c rest =>
      simp only [perform, List.cons_append, handOver]
      cases c.receive env value with
      | error e => exact .fails rfl
      | ok c' => exact .runs (.below rest root index rfl hs hk hi)

lemma Performs.follows {f f' : Activation} {callers callers' frames : List Activation}
    {x x' : Except RunError Action} {r r' : EStateM.Result RunError Machine Status}
    (hp : Performs env f callers m x r) (hp' : Performs env f' callers' { m with frames } x' r')
    (hx : ∀ a, x = .ok a → ∃ a', x' = .ok a' ∧
      Follows book old new n (perform env f callers m a) (perform env f' callers' m a'))
    (he : ∀ e, x = .error e → (∃ script index offset, e = .jumpOutOfRange script index offset) ∨ x' = .error e) :
    Overshoots r ∨ Follows book old new n r r' := by
  cases hp with
  | @acts a _ hr =>
    obtain ⟨a', rfl, hf⟩ := hx a rfl
    cases hp' with
    | acts hr' =>
      rw [hr, hr', perform_frames]
      exact .inr hf
  | @fails e m₁ hj =>
    rcases he e rfl with ⟨script, index, offset, rfl⟩ | rfl
    · exact .inl ⟨script, index, offset, m₁, rfl⟩
    · cases hp' with
      | fails hj' => exact .inr (.fails (hj'.trans hj.symm))

lemma step_alone (h : env.book.Extends old new front) (hl : ¬ Exhausted env m) (hf : m.frames = [root])
    (hs : root.script = old) :
    Overshoots (step env m) ∨ Follows env.book old new front.length (step env m)
      (step env { m with frames := [root.shifted new front.length] }) := by
  have hl' : ¬ Exhausted env { m with frames := [root.shifted new front.length] } := hl
  have hp' : Performs env (root.shifted new front.length) []
      { m.counted.noted (root.events env) with frames := [root.shifted new front.length] }
      ((root.shifted new front.length).action env)
      (step env { m with frames := [root.shifted new front.length] }) := by
    rw [← Activation.events_shifted h hs]
    exact step_performs env hl' rfl
  have ha := Activation.action_shifts h hs
  generalize (root.shifted new front.length).action env = x' at ha hp'
  apply (step_performs env hl hf).follows hp'
  · intro a hx
    refine ⟨a.shifted new front.length, ?_, perform_alone hs hx _⟩
    rw [hx] at ha
    cases ha with
    | acts => rfl
  · intro e hx
    rw [hx] at ha
    cases ha with
    | fails => exact .inr rfl
    | jumps script index offset => exact .inl ⟨script, index, offset, rfl⟩

lemma step_below (h : env.book.Extends old new front) (hl : ¬ Exhausted env m) {inner : List Activation}
    {key : String} {i : Nat} (hf : m.frames = f :: (inner ++ [root])) (hs : root.script = old)
    (hk : root.stopAt = some key) (hi : (env.book.script old).stopIndex? key = some i) (index : Nat) :
    Overshoots (step env m) ∨ Follows env.book old new front.length (step env m)
      (step env { m with frames := f :: (inner ++ [{ root with script := new, index }]) }) := by
  have hl' : ¬ Exhausted env { m with frames := f :: (inner ++ [{ root with script := new, index }]) } := hl
  have hp' : Performs env f (inner ++ [{ root with script := new, index }])
      { m.counted.noted (f.events env) with frames := f :: (inner ++ [{ root with script := new, index }]) }
      (f.action env)
      (step env { m with frames := f :: (inner ++ [{ root with script := new, index }]) }) :=
    step_performs env hl' rfl
  apply (step_performs env hl hf).follows hp'
  · intro a hx
    exact ⟨a, hx, perform_below h hs hk hi inner index _ a⟩
  · intro e hx
    exact .inr hx

lemma step_follows (h : env.book.Extends old new front) (hm : Shifted env.book old new front.length m m') :
    Overshoots (step env m) ∨ Follows env.book old new front.length (step env m) (step env m') := by
  by_cases hl : Exhausted env m
  · obtain ⟨limit, hn, hle⟩ := hl
    have hle' : limit ≤ m'.steps := by cases hm <;> exact hle
    rw [step_exhausted env hn hle, step_exhausted env hn hle']
    exact .inr (.fails hm.outputs.2.2)
  cases hm with
  | alone root hf hs => exact step_alone h hl hf hs
  | below inner root index hf hs hk hi => exact step_below h hl hf hs hk hi index

lemma run_follows (h : env.book.Extends old new front) (fuel : Nat)
    (hm : Shifted env.book old new front.length m m') :
    (run env fuel m = none ∧ run env fuel m' = none) ∨
    ∃ r, run env fuel m = some r ∧
      (Overshoots r ∨ ∃ r', run env fuel m' = some r' ∧ Follows env.book old new front.length r r') := by
  induction fuel generalizing m m' with
  | zero => exact .inl ⟨rfl, rfl⟩
  | succ fuel ih =>
    rcases step_follows h hm with ⟨script, index, offset, m₁, hr⟩ | hf
    · exact .inr ⟨_, by rw [run, hr], .inl ⟨script, index, offset, m₁, rfl⟩⟩
    rw [run, run]
    generalize step env m = r at hf
    generalize step env m' = r' at hf
    cases hf with
    | runs hm => exact ih hm
    | waits hm => exact .inr ⟨_, rfl, .inr ⟨_, rfl, .waits hm⟩⟩
    | ends value m => exact .inr ⟨_, rfl, .inr ⟨_, rfl, .ends value m⟩⟩
    | fails hj => exact .inr ⟨_, rfl, .inr ⟨_, rfl, .fails hj⟩⟩

end Machine

namespace Turn

inductive Rerooted (new : ScriptId) :
    EStateM.Result RunError Machine Outcome → EStateM.Result RunError Machine Outcome → Prop
  | ok {m m' : Machine} (o : Outcome) : m'.journal = m.journal →
      Rerooted new (.ok o m) (.ok { o with stack := o.stack.map (CallStack.reroot new) } m')
  | error {m m' : Machine} (e : RunError) : m'.journal = m.journal → Rerooted new (.error e m) (.error e m')

variable {env : Env κ} {old new : ScriptId} {front : List (Command κ)} {stack : CallStack} {n index : Nat}
  {key : String}

lemma outcome_shifted {book : Playbook κ} {m m' : Machine} (hm : Machine.Shifted book old new n m m')
    (status : Status) (yielded : Option Value) :
    outcome status yielded m' =
      { outcome status yielded m with stack := (outcome status yielded m).stack.map (CallStack.reroot new) } := by
  cases status with
  | ended value => simp only [outcome, hm.outputs.1, Option.map_none]
  | running => simp only [outcome, hm.outputs.1, hm.stack]
  | waiting => simp only [outcome, hm.outputs.1, hm.stack]

lemma close_shifted {book : Playbook κ} {m m' : Machine} (hm : Machine.Shifted book old new n m m')
    (status : Status) : Rerooted new (close (.ok status m)) (close (.ok status m')) := by
  obtain ⟨-, hy, hj⟩ := hm.outputs
  simp only [close, hy, outcome_shifted hm]
  cases PendingYield.fold m.yields.toList with
  | error e => exact .error e (congrArg (· ++ _) hj)
  | ok yielded => exact .ok _ (congrArg (· ++ _) hj)

lemma close_follows {book : Playbook κ} {r r' : EStateM.Result RunError Machine Status}
    (h : Machine.Follows book old new n r r') : Rerooted new (close r) (close r') := by
  cases h with
  | runs hm => exact close_shifted hm _
  | waits hm => exact close_shifted hm _
  | ends value m =>
    simp only [close]
    cases PendingYield.fold m.yields.toList with
    | error e => exact .error e rfl
    | ok yielded => exact .ok (outcome (.ended value) yielded m) rfl
  | fails hj => exact .error _ hj

lemma malformation?_reroot (new : ScriptId) (book : Playbook κ) (input : Option Value)
    (hk : stack.outermost.stopAt = some key) :
    malformation? book (stack.reroot new) (.resume input) = malformation? book stack (.resume input) := by
  obtain ⟨f, callers⟩ := stack
  rcases List.eq_nil_or_concat' callers with rfl | ⟨inner, root, rfl⟩
  · have hk : f.stopAt = some key := hk
    simp [malformation?, CallStack.reroot, CallStack.frames, unstopped?, hk]
  · rw [CallStack.outermost_concat] at hk
    simp [malformation?, CallStack.reroot_concat, CallStack.frames, unstopped?, hk]

lemma misshapen_reroot_iff {book : Playbook κ} {input : Option Value} {reason : Malformation}
    (hk : stack.outermost.stopAt = some key) :
    Misshapen book (stack.reroot new) (.resume input) reason ↔ Misshapen book stack (.resume input) reason := by
  rw [← malformation?_eq_some_iff, malformation?_reroot new book input hk, malformation?_eq_some_iff]

inductive Admits (env : Env κ) (old new : ScriptId) (n : Nat) :
    EStateM.Result RunError Machine Unit → EStateM.Result RunError Machine Unit → Prop
  | ok {m m' : Machine} : Machine.Shifted env.book old new n m m' → Admits env old new n (.ok () m) (.ok () m')
  | error {m m' : Machine} (e : RunError) : m'.journal = m.journal →
      Admits env old new n (.error e m) (.error e m')

lemma enter_alone (h : env.book.Extends old new front) {root : Frame} (hs : root.script = old)
    (hk : root.stopAt = some key) (hi : (env.book.script old).stopIndex? key = some index) (input : Option Value)
    (hw : ∀ f ∈ (CallStack.mk root []).frames, f.stopAt ≠ none)
    (hw' : ∀ f ∈ (CallStack.mk { root with script := new } []).frames, f.stopAt ≠ none) :
    Admits env old new front.length (enter env ⟨root, []⟩ (.resume input) {})
      (enter env ⟨{ root with script := new }, []⟩ (.resume input) {}) := by
  have ha' := h.asking hi
  cases ha : (env.book.script old).asking key with
  | error e =>
    rw [ha] at ha'
    rw [enter_unasked input hw hk (hs ▸ ha), enter_unasked input hw' hk ha']
    exact .error e rfl
  | ok target =>
    obtain ⟨place, store⟩ := target
    rw [ha] at ha'
    rw [enter_asked input hw hk (hs ▸ ha), enter_asked input hw' hk ha']
    have hv : (activate { root with script := new }).stored env store input =
        (activate root).stored env store input :=
      Activation.stored_congr (Activation.contextOf_extends (f := activate root) h hs _) rfl
    simp only [hv]
    cases (activate root).stored env store input with
    | error e => exact .error e rfl
    | ok vars =>
      have hp : (activate { root with script := new }).past (place + front.length) vars =
          ((activate root).past place vars).shifted new front.length := by
        simp [Activation.past, Activation.shifted, activate]
        omega
      simp only [hp]
      exact .ok (.alone _ rfl hs)

lemma enter_below {f root : Frame} {inner : List Frame} (hs : root.script = old)
    (hk : root.stopAt = some key) (hi : (env.book.script old).stopIndex? key = some index) (input : Option Value)
    (hw : ∀ c ∈ (CallStack.mk f (inner ++ [root])).frames, c.stopAt ≠ none)
    (hw' : ∀ c ∈ (CallStack.mk f (inner ++ [{ root with script := new }])).frames, c.stopAt ≠ none) :
    Admits env old new n (enter env ⟨f, inner ++ [root]⟩ (.resume input) {})
      (enter env ⟨f, inner ++ [{ root with script := new }]⟩ (.resume input) {}) := by
  obtain ⟨asked, hf⟩ := Option.ne_none_iff_exists'.mp (hw f List.mem_cons_self)
  cases ha : (env.book.script f.script).asking asked with
  | error e =>
    rw [enter_unasked input hw hf ha, enter_unasked input hw' hf ha]
    exact .error e rfl
  | ok target =>
    obtain ⟨place, store⟩ := target
    rw [enter_asked input hw hf ha, enter_asked input hw' hf ha]
    cases (activate f).stored env store input with
    | error e => exact .error e rfl
    | ok vars =>
      simp only [List.map_append]
      exact .ok (.below (inner.map activate) (activate root) 0 rfl hs hk hi)

lemma enter_reroot (h : env.book.Extends old new front) (hs : stack.outermost.script = old)
    (hk : stack.outermost.stopAt = some key) (hi : (env.book.script old).stopIndex? key = some index)
    (input : Option Value) :
    Admits env old new front.length (enter env stack (.resume input) {})
      (enter env (stack.reroot new) (.resume input) {}) := by
  by_cases hm : ∃ reason, Misshapen env.book stack (.resume input) reason
  · obtain ⟨reason, hm⟩ := hm
    rw [enter_misshapen hm, enter_misshapen ((misshapen_reroot_iff hk).mpr hm)]
    exact .error _ rfl
  have hw := stopAt_ne_of_shapely (not_exists.mp hm)
  have hw' : ∀ f ∈ (stack.reroot new).frames, f.stopAt ≠ none :=
    stopAt_ne_of_shapely fun reason hr => hm ⟨reason, (misshapen_reroot_iff hk).mp hr⟩
  obtain ⟨f, callers⟩ := stack
  rcases List.eq_nil_or_concat' callers with rfl | ⟨inner, root, rfl⟩
  · exact enter_alone h hs hk hi input hw hw'
  · rw [CallStack.outermost_concat] at hs hk
    rw [CallStack.reroot_concat] at hw' ⊢
    exact enter_below hs hk hi input hw hw'

lemma play_reroot (h : env.book.Extends old new front) (hs : stack.outermost.script = old)
    (hk : stack.outermost.stopAt = some key) (hi : (env.book.script old).stopIndex? key = some index)
    (fuel : Nat) (input : Option Value) :
    (play env fuel stack (.resume input) = none ∧ play env fuel (stack.reroot new) (.resume input) = none) ∨
    ∃ r, play env fuel stack (.resume input) = some r ∧
      (Machine.Overshoots r ∨
        ∃ r', play env fuel (stack.reroot new) (.resume input) = some r' ∧ Rerooted new r r') := by
  rw [play_eq, play_eq]
  have he := enter_reroot h hs hk hi input
  generalize enter env stack (.resume input) {} = r at he
  generalize enter env (stack.reroot new) (.resume input) {} = r' at he
  cases he with
  | error e hj => exact .inr ⟨_, rfl, .inr ⟨_, rfl, .error e hj⟩⟩
  | ok hm =>
    simp only
    rcases Machine.run_follows h fuel hm with ⟨hr, hr'⟩ | ⟨r, hr, ho⟩
    · rw [hr, hr']
      exact .inl ⟨rfl, rfl⟩
    rw [hr]
    refine .inr ⟨close r, rfl, ?_⟩
    rcases ho with ⟨script, i, offset, m, rfl⟩ | ⟨r', hr', hf⟩
    · exact .inl ⟨script, i, offset, m, rfl⟩
    · rw [hr']
      exact .inr ⟨close r', rfl, close_follows hf⟩

theorem play_extended (env : Env κ) (old new : ScriptId) (front : List (Command κ)) (stack : CallStack) (key : String)
    (index fuel : Nat) (input : Option Value) (h : env.book.Extends old new front)
    (hs : stack.outermost.script = old) (hk : stack.outermost.stopAt = some key)
    (hi : (env.book.script old).stopIndex? key = some index) :
    (∀ o m, play env fuel stack (.resume input) = some (.ok o m) →
      ∃ m', m'.journal = m.journal ∧ play env fuel (stack.reroot new) (.resume input) =
        some (.ok { o with stack := o.stack.map (CallStack.reroot new) } m')) ∧
    (∀ e m, play env fuel stack (.resume input) = some (.error e m) →
      (∃ script i offset, e = .jumpOutOfRange script i offset) ∨
      ∃ m', m'.journal = m.journal ∧ play env fuel (stack.reroot new) (.resume input) = some (.error e m')) ∧
    (play env fuel stack (.resume input) = none → play env fuel (stack.reroot new) (.resume input) = none) := by
  rcases play_reroot h hs hk hi fuel input with ⟨hp, hp'⟩ | ⟨r, hp, ⟨script, i, offset, m, rfl⟩ | ⟨r', hp', hr⟩⟩
  · simp [hp, hp']
  · simp [hp]
  · rw [hp, hp']
    cases hr with
    | @ok m m' o hj => simp [hj]
    | @error m m' e hj => simp [hj]

def rounds : List (Command .common) := [.call "guest" 0 none none none, .jump (-1)]

def morning : List (Command .common) := [.ask "weather" none]

def lodge : Playbook .common where
  scripts := [
    { name := "guest", commands := [.ask "name" none], stops := ⟨[("name", 0)]⟩, indexed := rfl },
    { name := "porter", commands := rounds, stops := ⟨[("guest", 0)]⟩, indexed := rfl },
    { name := "porter", commands := morning ++ rounds, stops := ⟨[("guest", 1), ("weather", 0)]⟩, indexed := rfl }]

lemma lodge_extends : lodge.Extends 1 2 morning where
  name := rfl
  info := rfl
  commands := rfl
  room := by
    intro index hlt c hc offset ho
    have hl : index < 3 := hlt
    have hc : c ∈ rounds := hc
    rcases List.mem_pair.mp hc with rfl | rfl
    · cases ho
    · rw [List.mem_singleton.mp ho]
      have hn : (-1 : Int64).toInt = -1 := by decide
      omega

def visit (porter : ScriptId) (guest : Value) : CallStack :=
  ⟨⟨0, guest, some "name"⟩, [⟨porter, .null, some "guest"⟩]⟩

theorem porter_play_extended :
    lodge.Extends 1 2 morning ∧
    ∃ m m', play (lodge.alone none) 4 (visit 1 .null) (.resume none) =
        some (.ok ⟨false, none, none, #[], some (visit 1 (Script.defaultVars none))⟩ m) ∧
      play (lodge.alone none) 4 (visit 2 .null) (.resume none) =
        some (.ok ⟨false, none, none, #[], some (visit 2 (Script.defaultVars none))⟩ m') := by
  have hp : play (lodge.alone none) 4 (visit 1 .null) (.resume none) =
      some (.ok ⟨false, none, none, #[], some (visit 1 (Script.defaultVars none))⟩
        ⟨[⟨0, Script.defaultVars none, 0, some "name"⟩, ⟨1, .null, 0, some "guest"⟩], #[], #[], 4, #[]⟩) := by
    cbv
  obtain ⟨m', -, hp'⟩ := (play_extended (lodge.alone none) 1 2 morning (visit 1 .null) "guest" 0 4 none
    lodge_extends rfl rfl rfl).1 _ _ hp
  exact ⟨lodge_extends, _, m', hp, hp'⟩

end Turn

end Dialogue
