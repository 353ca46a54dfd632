import Dialogue.Coffee.Turn
import Dialogue.Proofs.Action
import Dialogue.Proofs.Continuation
import Dialogue.Proofs.Walk

/-! Splitting a dialogue into turns changes nothing: the turns show what the uninterrupted walk shows between
one question and the next. -/

namespace Dialogue

variable {κ : Kinds}

def Activation.position (f : Activation) : Position := ⟨f.script, f.vars, f.index⟩

namespace Walk

variable (env : Env κ)

inductive Follows (f : Activation) (w : Walk κ) : Except RunError Action → Except (Halt κ) (Walk κ) → Prop
  | fails {e : RunError} : Follows f w (.error e) (.error (.failed e))
  | go {f' : Activation} {said : List Value} {queued : List PendingYield} {r : Except (Halt κ) (Walk κ)} :
      r = .ok { w with here := f'.position, said := w.said ++ said, queued := w.queued ++ queued } →
      Follows f w (.ok (.go f' said queued)) r
  | wait {key : String} {store : Option (Update κ)} : f.command? env = some (.ask key store) →
      Follows f w (.ok (.wait key)) (.error (.asked store))
  | enter {key : String} {child : Activation} {entry : Option String} {params : Option (Query κ)}
      {store : Option (Update κ)} :
      f.command? env = some (.call key child.script entry params store) →
      Follows f w (.ok (.enter key child))
        (.ok { w with here := child.position, callers := (w.here, store) :: w.callers })
  | leave {value : Option Value} : Follows f w (.ok (.leave value)) (w.leave env value)

variable {env} {f g : Activation} {w : Walk κ}

lemma jump_follows {p : Position} {said : List Value} {said' : Array Value}
    {queued queued' : List PendingYield} (offset : Int64) (hp : p = g.position)
    (hs : said' = w.said ++ said) (hq : queued' = w.queued ++ queued) :
    Follows env f w (do return .go (← g.jump env offset) said queued)
      (do return { w with here := ← attempt (p.jump env offset), said := said', queued := queued' }) := by
  subst hp hs hq
  rw [Activation.jump, Position.jump]
  change Follows env f w _ (do
    return { w with here := ← attempt ((env.book.landing g.script g.index offset).map _), said := _, queued := _ })
  cases env.book.landing g.script g.index offset with
  | error e => exact .fails
  | ok index => exact .go rfl

lemma command?_position (hw : w.here = f.position) : w.here.command? env.book = f.command? env := by
  rw [hw]
  rfl

lemma step_follows (hw : w.here = f.position) : Follows env f w (f.action env) (w.step env) := by
  have hx : w.here.context env = Machine.contextOf env f := by rw [hw]; rfl
  rw [Activation.action, step, command?_position hw]
  cases hcmd : f.command? env with
  | none => exact .leave
  | some c =>
    cases c with
    | say content =>
      simp only [Activation.act, hx]
      cases content.answer env (Machine.contextOf env f) with
      | error e => exact .fails
      | ok value => exact jump_follows 1 hw (by simp) (by simp)
    | ask key store => exact .wait hcmd
    | call key callee entry params store =>
      simp only [Activation.act, hx]
      cases Hook.answer? env params (Machine.contextOf env f) with
      | error e => exact .fails
      | ok given =>
        cases env.book.start callee entry with
        | error e => exact .fails
        | ok index => exact .enter hcmd
    | jump offset => exact jump_follows offset hw (by simp) (by simp)
    | branch condition negated offset =>
      simp only [Activation.act, hx]
      cases condition.answer env (Machine.contextOf env f) with
      | error e => exact .fails
      | ok holds => exact jump_follows _ hw (by simp) (by simp)
    | finish value =>
      simp only [Activation.act, hx]
      cases Hook.answer? env value (Machine.contextOf env f) with
      | error e => exact .fails
      | ok v => exact .leave
    | effect store emit =>
      simp only [Activation.act, hx]
      cases Hook.answer? env store (Machine.contextOf env f) with
      | error e => exact .fails
      | ok vars =>
        -- What is queued sees the variables as they are after the change.
        have hv : { w.here with vars := vars.getD w.here.vars } = (f.withVars vars).position := by
          rw [hw]
          rfl
        have hx' : Position.context env { w.here with vars := vars.getD w.here.vars } =
            Machine.contextOf env (f.withVars vars) := by
          rw [hv]
          rfl
        change Follows env f w (do
            let queued ← Hook.queued env emit (Machine.contextOf env (f.withVars vars))
            return .go (← (f.withVars vars).jump env 1) [] queued)
          (do
            let queued ← attempt (Hook.queued env emit
              (Position.context env { w.here with vars := vars.getD w.here.vars }))
            return { w with
              here := ← attempt (Position.jump env { w.here with vars := vars.getD w.here.vars } 1)
              queued := w.queued ++ queued })
        rw [hx']
        cases Hook.queued env emit (Machine.contextOf env (f.withVars vars)) with
        | error e => exact .fails
        | ok queued => exact jump_follows 1 hv (by simp) rfl

def Calling (book : Playbook κ) (w : Walk κ) : Prop :=
  ∀ c ∈ w.callers, ∃ key callee entry params,
    c.1.command? book = some (.call key callee entry params c.2)

def Mirrors (book : Playbook κ) (w : Walk κ) (m : Machine) : Prop :=
  -- Of the frames that wait the machine knows keys only.
  ∃ f callers, m.frames = f :: callers ∧ w.here = f.position ∧
    callers.map Activation.atRest = w.callers.map (fun c => c.1.atRest book) ∧
    w.Calling book ∧ m.contents = w.said ∧ m.yields.toList = w.queued

inductive Stops (book : Playbook κ) (w : Walk κ) : EStateM.Result RunError Machine Status → Halt κ → Prop
  | asks {m : Machine} {key : String} {store : Option (Update κ)} :
      w.here.command? book = some (.ask key store) → w.Calling book →
      CallStack.ofFrames? m.atRest = some (w.stack book) → m.contents = w.said →
      m.yields.toList = w.queued → Stops book w (.ok .waiting m) (.asked store)
  | ends {m : Machine} {value : Option Value} : m.contents = w.said → m.yields.toList = w.queued →
      Stops book w (.ok (.ended value) m) (.ended value)
  | fails {m : Machine} {e : RunError} : Stops book w (.error e m) (.failed e)

inductive Agrees (book : Playbook κ) (w : Walk κ) :
    EStateM.Result RunError Machine Status → Except (Halt κ) (Walk κ) → Prop
  | runs {m : Machine} {w' : Walk κ} : w'.Mirrors book m → Agrees book w (.ok .running m) (.ok w')
  | stops {r : EStateM.Result RunError Machine Status} {halt : Halt κ} : Stops book w r halt →
      Agrees book w r (.error halt)

lemma stored_take {p : Position} (store : Option (Update κ)) (value : Option Value)
    (hs : f.script = p.script) (hv : f.vars = p.vars) :
    (f.stored env store value).map (fun vars => (f.past p.index vars).position) =
      p.take env store value := by
  cases store with
  | none => simp [Activation.stored, Position.take, Except.map, Activation.past, Activation.position, hs, hv]
  | some hook =>
    have hx : Machine.contextOf env f = p.context env := by
      simp [Machine.contextOf, Position.context, hs, hv]
    simp only [Activation.stored, Position.take, hx]
    cases hook.answer env (p.context env, value) with
    | error e => rfl
    | ok vars => simp [Except.map, Activation.past, Activation.position, hs]

lemma receive_take {p : Position} {key : String} {callee : ScriptId} {entry : Option String}
    {params : Option (Query κ)} {store : Option (Update κ)} (value : Option Value)
    (hr : f.atRest = p.atRest env.book)
    (hc : p.command? env.book = some (.call key callee entry params store)) :
    (f.receive env value).map Activation.position = p.take env store value := by
  obtain ⟨hs, hv, hk⟩ := Frame.mk.inj hr
  have hk' : f.stopAt = some key := by simpa [hc, Command.key?] using hk
  have hcall : (env.book.script f.script).calling key = .ok (p.index, store) := by
    rw [hs]
    exact Script.calling_eq_ok_iff.mpr ⟨callee, entry, params, hc⟩
  rw [← stored_take store value hs hv, Activation.receive]
  simp only [hk', hcall]
  cases f.stored env store value <;> rfl

lemma handOver_agrees {m : Machine} {callers : List Activation} (value : Option Value)
    (hr : callers.map Activation.atRest = w.callers.map (fun c => c.1.atRest env.book))
    (hc : w.Calling env.book) (hs : m.contents = w.said) (hq : m.yields.toList = w.queued) :
    Agrees env.book w (Machine.handOver env callers m value) (w.leave env value) := by
  rcases w with ⟨here, _ | ⟨⟨p, store⟩, ps⟩, said, queued⟩
  · obtain rfl : callers = [] := by simpa using hr
    exact .stops (.ends hs hq)
  · obtain ⟨c, rest, rfl⟩ : ∃ c rest, callers = c :: rest := by
      cases callers with
      | nil => simp at hr
      | cons c rest => exact ⟨c, rest, rfl⟩
    obtain ⟨hp, hps⟩ := List.cons.inj hr
    obtain ⟨⟨key, callee, entry, params, hcall⟩, hc⟩ := List.forall_mem_cons.mp hc
    have ht := receive_take value hp hcall
    simp only [Machine.handOver, leave, ← ht]
    cases c.receive env value with
    | error e => exact .stops .fails
    | ok c' => exact .runs ⟨c', rest, rfl, rfl, hps, hc, hs, hq⟩

lemma atRest_stopped {c : Command κ} {key : String} (hh : w.here = f.position)
    (hc : f.command? env = some c) (hk : c.key? = some key) :
    ({ f with stopAt := some key } : Activation).atRest = w.here.atRest env.book := by
  have hp : f.position.command? env.book = some c := hc
  rw [hh, Position.atRest, hp, Option.bind_some, hk]
  rfl

lemma perform_agrees {m : Machine} {callers : List Activation} {a : Action} {r : Except (Halt κ) (Walk κ)}
    (ha : Follows env f w (.ok a) r) (hh : w.here = f.position)
    (hr : callers.map Activation.atRest = w.callers.map (fun c => c.1.atRest env.book))
    (hc : w.Calling env.book) (hs : m.contents = w.said) (hq : m.yields.toList = w.queued) :
    Agrees env.book w (Machine.perform env f callers m a) r := by
  cases ha with
  | go h =>
    rw [h]
    exact .runs ⟨_, callers, rfl, rfl, hr, hc, by simp [hs], by simp [hq]⟩
  | @wait key store h =>
    refine .stops (.asks ((command?_position hh).trans h) hc ?_ hs hq)
    have hf := atRest_stopped hh h rfl
    exact congrArg some (congrArg₂ CallStack.mk hf hr)
  | @enter key child entry params store h =>
    refine .runs ⟨child, _, rfl, rfl, congrArg₂ List.cons (atRest_stopped hh h rfl) hr, ?_, hs, hq⟩
    exact List.forall_mem_cons.mpr ⟨⟨key, _, entry, params, (command?_position hh).trans h⟩, hc⟩
  | leave => exact handOver_agrees _ hr hc hs hq

lemma step_agrees {m : Machine} (hl : env.limit = none) (h : w.Mirrors env.book m) :
    Agrees env.book w (Machine.step env m) (w.step env) := by
  obtain ⟨f, callers, hf, hh, hr, hc, hs, hq⟩ := h
  have he : ¬ Machine.Exhausted env m := by simp [Machine.Exhausted, hl]
  have hp := Machine.step_performs env he hf
  have hw : Follows env f w (f.action env) (w.step env) := step_follows hh
  generalize f.action env = a at hp hw
  generalize Machine.step env m = r at hp
  generalize w.step env = r' at hw
  cases hp with
  | fails _ =>
    cases hw with
    | fails => exact .stops .fails
  | acts h =>
    rw [h]
    exact perform_agrees hw hh hr hc hs hq

lemma run_stretch {m : Machine} (hl : env.limit = none) (fuel : Nat) (h : w.Mirrors env.book m) :
    match stretch env fuel w with
    | none => Machine.run env fuel m = none
    | some (w', halt) => ∃ r, Machine.run env fuel m = some r ∧ Stops env.book w' r halt := by
  induction fuel generalizing m w with
  | zero => rfl
  | succ fuel ih =>
    have ha := step_agrees hl h
    rw [stretch]
    generalize hr : Machine.step env m = r at ha
    generalize w.step env = r' at ha
    cases ha with
    | runs h' =>
      simp only [Machine.run_succ_of_running hr]
      exact ih h'
    | stops h' =>
      refine ⟨r, ?_, h'⟩
      have hne : ∀ m', r ≠ .ok .running m' := by
        rintro m' rfl
        cases h'
      exact (Machine.Steps.zero m).run_of_last (Nat.succ_pos fuel) hr hne

lemma conclude_report {r : EStateM.Result RunError Machine Status} {halt : Halt κ}
    (h : Stops env.book w r halt) : Turn.conclude r = report env.book (w, halt) := by
  cases h with
  | asks _ _ hs hc hq => simp [Turn.conclude, report, hq, Turn.outcome, hs, hc]
  | ends hc hq => simp [Turn.conclude, report, hq, Turn.outcome, hc]
  | fails => rfl

lemma enter_take {key : String} {store : Option (Update κ)} (input : Option Value)
    (hc : w.here.command? env.book = some (.ask key store)) (hw : w.Calling env.book) :
    match w.here.take env store input with
    | .error e => ∃ m, Turn.enter env (w.stack env.book) (.resume input) {} = .error e m
    | .ok here => ∃ m, Turn.enter env (w.stack env.book) (.resume input) {} = .ok () m ∧
        Mirrors env.book { here, callers := w.callers } m := by
  have hk : (w.stack env.book).innermost.stopAt = some key := by
    simp [stack, Position.atRest, hc, Command.key?]
  have hs : ∀ f ∈ (w.stack env.book).frames, f.stopAt ≠ none := by
    refine List.forall_mem_cons.mpr ⟨by simp [hk], ?_⟩
    intro f hf
    obtain ⟨c, hm, rfl⟩ := List.mem_map.mp hf
    obtain ⟨key, callee, entry, params, hcall⟩ := hw c hm
    simp [Position.atRest, hcall, Command.key?]
  have he := Turn.enter_resume input hs hk hc
  rw [Machine.answer_eq env w.here.index store input rfl] at he
  have ht : ((Turn.activate (w.stack env.book).innermost).stored env store input).map
      (fun vars => ((Turn.activate (w.stack env.book).innermost).past w.here.index vars).position) =
      w.here.take env store input := stored_take store input rfl rfl
  rw [← ht]
  generalize (Turn.activate (w.stack env.book).innermost).stored env store input = v at he
  cases v with
  | error e => exact ⟨_, he⟩
  | ok vars =>
    refine ⟨_, he, _, _, rfl, rfl, ?_, hw, rfl, rfl⟩
    exact Turn.map_atRest_activate _

end Walk

namespace Turn

def series (env : Env κ) (fuel : Nat) : List (Option Value) → CallStack → Entry →
    List (Option (Except RunError Outcome))
  | inputs, stack, entry =>
    match (play env fuel stack entry).map shown with
    | some (.ok o) => some (.ok o) ::
      match inputs, o.stack with
      | input :: inputs, some stack => series env fuel inputs stack (.resume input)
      | _, _ => []
    | r => [r]

variable {env : Env κ} {fuel : Nat} {stack : CallStack} {entry : Entry} {inputs : List (Option Value)}

lemma exists_of_isOk {α : Type} {r : Except RunError α} (h : r.isOk = true) : ∃ a, r = .ok a := by
  cases r with
  | error e => exact absurd h Bool.false_ne_true
  | ok a => exact ⟨a, rfl⟩

lemma series_of_error {e : RunError} {m : Machine} (he : enter env stack entry {} = .error e m) :
    series env fuel inputs stack entry = [some (.error e)] := by
  rw [series, shown_play, he]

lemma shown_play_stretch {m : Machine} {w : Walk κ} (hl : env.limit = none)
    (he : enter env stack entry {} = .ok () m) (hm : w.Mirrors env.book m) :
    (play env fuel stack entry).map shown = (w.stretch env fuel).map (Walk.report env.book) := by
  have hr := Walk.run_stretch hl fuel hm
  rw [shown_play, he]
  cases hs : w.stretch env fuel with
  | none =>
    rw [hs] at hr
    simp [hr]
  | some pause =>
    rw [hs] at hr
    obtain ⟨r, hr, hstop⟩ := hr
    simp [hr, Walk.conclude_report hstop]

lemma series_eq_tour (inputs : List (Option Value)) {stack : CallStack} {entry : Entry} {m : Machine}
    {w : Walk κ} (hl : env.limit = none) (he : enter env stack entry {} = .ok () m)
    (hm : w.Mirrors env.book m) (hy : (w.tour env fuel inputs).all Walk.folds = true) :
    series env fuel inputs stack entry =
      (w.tour env fuel inputs).map (Option.map (Walk.report env.book)) := by
  -- By recursion on the inputs. An input starts a turn on the stack that the walk leaves at its question,
  -- and the machine of that turn mirrors the walk behind the question.
  rw [series, shown_play_stretch hl he hm]
  have hr := Walk.run_stretch hl fuel hm
  rw [Walk.tour] at hy ⊢
  cases hs : w.stretch env fuel with
  | none => rfl
  | some pause =>
    obtain ⟨w', halt⟩ := pause
    rw [hs] at hr hy
    obtain ⟨r, -, hstop⟩ := hr
    cases halt with
    | failed e => rfl
    | ended value =>
      obtain ⟨yielded, hf⟩ := exists_of_isOk
        (List.all_eq_true.mp hy (some (w', .ended value)) List.mem_cons_self)
      simp [Walk.report, hf, Except.map]
    | asked store =>
      obtain ⟨yielded, hf⟩ := exists_of_isOk
        (List.all_eq_true.mp hy (some (w', .asked store)) List.mem_cons_self)
      obtain ⟨key, hc, hw⟩ : ∃ key, w'.here.command? env.book = some (.ask key store) ∧
          w'.Calling env.book := by
        cases hstop with
        | asks hc hw => exact ⟨_, hc, hw⟩
      cases inputs with
      | nil => simp [Walk.report, hf, Except.map]
      | cons input inputs =>
        have ht := Walk.enter_take input hc hw
        simp only [Option.map_some, Walk.report, hf, Except.map, List.map_cons]
        cases hh : w'.here.take env store input with
        | error e =>
          rw [hh] at ht
          obtain ⟨m', he'⟩ := ht
          rw [series_of_error he']
          rfl
        | ok here =>
          rw [hh] at ht
          obtain ⟨m', he', hm'⟩ := ht
          simp only [hh, List.all_cons, Bool.and_eq_true] at hy
          rw [series_eq_tour inputs hl he' hm' hy.2]

theorem series_eq_uninterrupted (book : Playbook κ) (scope : Scope κ) (thread : Thread) (root : ScriptId)
    (params : Option Value) (inputs : List (Option Value)) (fuel : Nat)
    (hy : ((Walk.start book root params).tour ⟨book, scope, thread, none⟩ fuel inputs).all
      Walk.folds = true) :
    series ⟨book, scope, thread, none⟩ fuel inputs (CallStack.root book root params) .fresh =
      ((Walk.start book root params).tour ⟨book, scope, thread, none⟩ fuel inputs).map
        (Option.map (Walk.report book)) := by
  have hm : (Walk.start book root params).Mirrors book (entered (CallStack.root book root params)) :=
    ⟨_, [], rfl, rfl, rfl, by simp [Walk.Calling, Walk.start], rfl, rfl⟩
  exact series_eq_tour inputs rfl (enter_root root params) hm hy

theorem coffee_series_eq_uninterrupted :
    ((Walk.start Coffee.book Coffee.root none).tour (Coffee.env none ⟨"cli", "guest"⟩) 5
      [some (.str "tea"), some (.str "no")]).length = 3 ∧
    series (Coffee.env none ⟨"cli", "guest"⟩) 5 [some (.str "tea"), some (.str "no")]
      (CallStack.root Coffee.book Coffee.root none) .fresh =
    ((Walk.start Coffee.book Coffee.root none).tour (Coffee.env none ⟨"cli", "guest"⟩) 5
      [some (.str "tea"), some (.str "no")]).map (Option.map (Walk.report Coffee.book)) := by
  refine ⟨by cbv, ?_⟩
  exact series_eq_uninterrupted Coffee.book (Coffee.scope Coffee.defaultMenu) ⟨"cli", "guest"⟩ Coffee.root none _ 5
    (by cbv)

end Turn

end Dialogue
