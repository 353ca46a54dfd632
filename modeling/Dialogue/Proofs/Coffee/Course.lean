import Dialogue.Coffee.Turn
import Dialogue.Proofs.Passage

/-! The courses that a turn at the coffee bar can take, from each point where a guest may answer and for any
frames that wait below. -/

namespace Dialogue

variable {κ : Kinds}

namespace Activation

variable {env : Env κ} {f f' : Activation} {offset : Int64}

lemma jump_eq_of_sum {target : Nat} (hp : ¬ Int64.ofNat f.index + offset < 0)
    (ht : (Int64.ofNat f.index + offset).toNatClampNeg = target) :
    f.jump env offset = .ok { f with index := target } := by
  rw [jump, Playbook.landing, if_neg hp, ht]
  rfl

lemma action_jump (hc : f.command? env = some (.jump offset)) (hj : f.jump env offset = .ok f') :
    f.action env = .ok (.go f' [] []) := by
  rw [action, hc]
  change (f.jump env offset).bind _ = _
  rw [hj]
  rfl

lemma action_branch {condition : Condition κ} {negated b : Bool}
    (hc : f.command? env = some (.branch condition negated offset))
    (hb : condition.answer env (Machine.contextOf env f) = .ok b)
    (hj : f.jump env (if b != negated then offset else 1) = .ok f') :
    f.action env = .ok (.go f' [] []) := by
  rw [action, hc]
  simp only [act, hb]
  change (f.jump env (if b != negated then offset else 1)).bind _ = _
  rw [hj]
  rfl

end Activation

namespace Coffee

def bar (items : List String) (limit : Option Nat) (thread : Thread) : Env .common :=
  ⟨book, scope items, thread, limit⟩

def view (thread : Thread) (script : ScriptId) (vars : Value) : Context :=
  ⟨thread, vars, (book.script script).info⟩

def tallied (thread : Thread) (vars : Value) : PendingYield :=
  ⟨⟨none, fun x => .ok (tally x)⟩, view thread 1 vars⟩

variable {items : List String} {limit : Option Nat} {thread : Thread} {v w : Value} {s : Option String}
  {i : Nat} {f : Activation} {callers : List Activation} {value : Option Value}

section Commands

lemma say_greet : (⟨0, v, 0, s⟩ : Activation).action (bar items limit thread) =
    .ok (.go ⟨0, v, 1, s⟩ [greet items (view thread 0 v)] []) := rfl

lemma ask_drink : (⟨0, v, 1, s⟩ : Activation).action (bar items limit thread) = .ok (.wait "drink") := rfl

lemma branch_served (h : isServed items (view thread 0 v) = true) :
    (⟨0, v, 2, s⟩ : Activation).action (bar items limit thread) = .ok (.go ⟨0, v, 5, s⟩ [] []) :=
  Activation.action_branch rfl (congrArg Except.ok h) rfl

lemma branch_unserved (h : isServed items (view thread 0 v) = false) :
    (⟨0, v, 2, s⟩ : Activation).action (bar items limit thread) = .ok (.go ⟨0, v, 3, s⟩ [] []) :=
  Activation.action_branch rfl (congrArg Except.ok h) rfl

lemma say_apologise : (⟨0, v, 3, s⟩ : Activation).action (bar items limit thread) =
    .ok (.go ⟨0, v, 4, s⟩ [apologise (view thread 0 v)] []) := rfl

lemma jump_greet : (⟨0, v, 4, s⟩ : Activation).action (bar items limit thread) =
    .ok (.go ⟨0, v, 0, s⟩ [] []) :=
  Activation.action_jump rfl (Activation.jump_eq_of_sum
    (show ¬ Int64.ofNat 4 + -4 < 0 by decide) (show (Int64.ofNat 4 + -4).toNatClampNeg = 0 by decide))

lemma finish_chosen : (⟨0, v, 5, s⟩ : Activation).action (bar items limit thread) =
    .ok (.leave (some (chosen (view thread 0 v)))) := rfl

lemma say_welcome : (⟨1, w, 0, s⟩ : Activation).action (bar items limit thread) =
    .ok (.go ⟨1, w, 1, s⟩ [welcome (view thread 1 w)] []) := rfl

lemma call_choose : (⟨1, w, 1, s⟩ : Activation).action (bar items limit thread) =
    .ok (.enter "choose" ⟨0, .obj [], 0, none⟩) := rfl

lemma receive_choose : (⟨1, w, i, some "choose"⟩ : Activation).receive (bar items limit thread) value =
    .ok ⟨1, storeDrink (view thread 1 w, value), 2, none⟩ := rfl

lemma effect_tally : (⟨1, w, 2, s⟩ : Activation).action (bar items limit thread) =
    .ok (.go ⟨1, w, 3, s⟩ [] [tallied thread w]) := rfl

lemma say_offer : (⟨1, w, 3, s⟩ : Activation).action (bar items limit thread) =
    .ok (.go ⟨1, w, 4, s⟩ [offerMore (view thread 1 w)] []) := rfl

lemma ask_more : (⟨1, w, 4, s⟩ : Activation).action (bar items limit thread) = .ok (.wait "more") := rfl

lemma branch_more (h : wantsMore (view thread 1 w) = true) :
    (⟨1, w, 5, s⟩ : Activation).action (bar items limit thread) = .ok (.go ⟨1, w, 1, s⟩ [] []) :=
  Activation.action_branch rfl (congrArg Except.ok h) (Activation.jump_eq_of_sum
    (show ¬ Int64.ofNat 5 + -4 < 0 by decide) (show (Int64.ofNat 5 + -4).toNatClampNeg = 1 by decide))

lemma branch_enough (h : wantsMore (view thread 1 w) = false) :
    (⟨1, w, 5, s⟩ : Activation).action (bar items limit thread) = .ok (.go ⟨1, w, 6, s⟩ [] []) :=
  Activation.action_branch rfl (congrArg Except.ok h) rfl

lemma say_thank : (⟨1, w, 6, s⟩ : Activation).action (bar items limit thread) =
    .ok (.go ⟨1, w, 7, s⟩ [thank (view thread 1 w)] []) := rfl

lemma finish_ordered : (⟨1, w, 7, s⟩ : Activation).action (bar items limit thread) =
    .ok (.leave (some (ordered (view thread 1 w)))) := rfl

end Commands

section Passages

lemma greeting_passage : Passage (bar items limit thread) 2 (⟨0, v, 0, s⟩ :: callers)
    [greet items (view thread 0 v)] [] (.asks (⟨0, v, 1, some "drink"⟩ :: callers)) :=
  (Passage.go say_greet (.asks ask_drink) :)

lemma opening_passage : Passage (bar items limit thread) 4 (⟨1, w, 0, s⟩ :: callers)
    [welcome (view thread 1 w), greet items (view thread 0 (.obj []))] []
    (.asks (⟨0, .obj [], 1, some "drink"⟩ :: ⟨1, w, 1, some "choose"⟩ :: callers)) :=
  (Passage.go say_welcome (.enter call_choose greeting_passage) :)

lemma unserved_passage (h : isServed items (view thread 0 v) = false) :
    Passage (bar items limit thread) 5 (⟨0, v, 2, s⟩ :: callers)
      [apologise (view thread 0 v), greet items (view thread 0 v)] []
      (.asks (⟨0, v, 1, some "drink"⟩ :: callers)) :=
  (Passage.go (branch_unserved h) (.go say_apologise (.go jump_greet greeting_passage)) :)

lemma offer_passage (hf : f.action (bar items limit thread) = .ok (.leave value)) :
    Passage (bar items limit thread) 4 (f :: ⟨1, w, i, some "choose"⟩ :: callers)
      [offerMore (view thread 1 (storeDrink (view thread 1 w, value)))]
      [tallied thread (storeDrink (view thread 1 w, value))]
      (.asks (⟨1, storeDrink (view thread 1 w, value), 4, some "more"⟩ :: callers)) :=
  (Passage.back hf receive_choose (.go effect_tally (.go say_offer (.asks ask_more))) :)

lemma more_passage (h : wantsMore (view thread 1 w) = true) :
    Passage (bar items limit thread) 4 (⟨1, w, 5, s⟩ :: callers)
      [greet items (view thread 0 (.obj []))] []
      (.asks (⟨0, .obj [], 1, some "drink"⟩ :: ⟨1, w, 1, some "choose"⟩ :: callers)) :=
  (Passage.go (branch_more h) (.enter call_choose greeting_passage) :)

lemma leave_cases (hf : f.action (bar items limit thread) = .ok (.leave value))
    (hk : ∀ c ∈ callers, c.script = 0 ∨ c.script = 1) :
    (callers = [] ∧ Passage (bar items limit thread) 1 (f :: callers) [] [] (.ends value)) ∨
    (∃ e, Passage (bar items limit thread) 1 (f :: callers) [] [] (.fails e)) ∨
    ∃ w i rest, callers = ⟨1, w, i, some "choose"⟩ :: rest := by
  cases callers with
  | nil => exact .inl ⟨rfl, .ends hf⟩
  | cons c rest =>
    right
    cases hr : c.receive (bar items limit thread) value with
    | error e => exact .inl ⟨e, .stuck hf hr⟩
    | ok c' =>
      right
      obtain ⟨key, index, store, vars, hs, hc, -, -⟩ := Activation.receive_eq_ok hr
      obtain ⟨callee, entry, params, hc⟩ := Script.calling_eq_ok_iff.mp hc
      have hm := List.mem_of_getElem? hc
      obtain ⟨script, w, i, stop⟩ := c
      rcases hk _ List.mem_cons_self with rfl | rfl
      · have hn : Command.call key callee entry params store ∉ chooseDrink.commands := by simp [chooseDrink]
        exact absurd hm hn
      · have hkey : key = "choose" := by
          have ht : Command.call key callee entry params store ∈ (takeOrder 0).commands := hm
          simp only [takeOrder, List.mem_cons, Command.call.injEq, reduceCtorEq, false_or, List.not_mem_nil,
            or_false] at ht
          exact ht.1
        cases hs
        exact ⟨w, i, rest, by rw [hkey]⟩

end Passages

section Entry

variable {stack : CallStack} {frames : List Frame}

variable (items limit thread) in
lemma enter_drink (v : Value) (input : Option Value) (hs : ∀ f ∈ frames, f.stopAt ≠ none) :
    ∃ journal, Turn.enter (bar items limit thread) ⟨⟨0, v, some "drink"⟩, frames⟩ (.resume input) {} = .ok ()
      { frames := ⟨0, storeChoice (view thread 0 v, input), 2, none⟩ :: frames.map Turn.activate,
        journal } := by
  have hc : ((bar items limit thread).book.script 0).commands[1]? =
    some (.ask "drink" (some (plain storeChoice))) := rfl
  exact Turn.enter_resume_past input (List.forall_mem_cons.mpr ⟨by simp, hs⟩) rfl hc rfl

variable (items limit thread) in
lemma enter_more (w : Value) (input : Option Value) (hs : ∀ f ∈ frames, f.stopAt ≠ none) :
    ∃ journal, Turn.enter (bar items limit thread) ⟨⟨1, w, some "more"⟩, frames⟩ (.resume input) {} = .ok ()
      { frames := ⟨1, storeMore (view thread 1 w, input), 5, none⟩ :: frames.map Turn.activate,
        journal } := by
  have hc : ((bar items limit thread).book.script 1).commands[4]? =
    some (.ask "more" (some (plain storeMore))) := rfl
  exact Turn.enter_resume_past input (List.forall_mem_cons.mpr ⟨by simp, hs⟩) rfl hc rfl

lemma resume_cases (limit : Option Nat) (thread : Thread) (input : Option Value)
    (hk : stack.innermost.script = 0 ∨ stack.innermost.script = 1) :
    (∃ e m, Turn.enter (bar items limit thread) stack (.resume input) {} = .error e m) ∨
      ∃ frames, (∀ f ∈ frames, f.stopAt ≠ none) ∧
        ((∃ v, stack = ⟨⟨0, v, some "drink"⟩, frames⟩) ∨ ∃ w, stack = ⟨⟨1, w, some "more"⟩, frames⟩) := by
  refine (Turn.enter_resume_cases (bar items limit thread) stack input).imp id ?_
  rintro ⟨hs, key, index, store, hkey, hc⟩
  have hm := List.mem_of_getElem? hc
  obtain ⟨⟨script, vars, stop⟩, frames⟩ := stack
  refine ⟨frames, (List.forall_mem_cons.mp hs).2, ?_⟩
  cases hkey
  rcases hk with rfl | rfl
  · have ha : Command.ask key store ∈ chooseDrink.commands := hm
    simp only [chooseDrink, List.mem_cons, Command.ask.injEq, reduceCtorEq, false_or, or_false,
      List.not_mem_nil] at ha
    exact .inl ⟨vars, by rw [ha.1]⟩
  · have ha : Command.ask key store ∈ (takeOrder 0).commands := hm
    simp only [takeOrder, List.mem_cons, Command.ask.injEq, reduceCtorEq, false_or, or_false,
      List.not_mem_nil] at ha
    exact .inr ⟨vars, by rw [ha.1]⟩

end Entry

section Outcomes

variable {stack : CallStack} {entry : Entry} {input : Option Value}

def Brings (items : List String) (thread : Thread) (stack : CallStack) (entry : Entry) (o : Outcome) : Prop :=
  ∀ limit, ∃ k journal frames said queued fin, k ≤ 5 ∧
    Turn.enter (bar items limit thread) stack entry {} = .ok () { frames, journal } ∧
    Passage (bar items limit thread) k frames said queued fin ∧ fin.report said.toArray queued = .ok o

lemma Brings.shown {o : Outcome} (h : Brings items thread stack entry o) (hl : ∀ n ∈ limit, 5 ≤ n) :
    (Turn.play (bar items limit thread) Turn.ample stack entry).map Turn.shown = some (.ok o) := by
  obtain ⟨k, journal, frames, said, queued, fin, hk, he, hp, ho⟩ := h limit
  rw [Turn.shown_play_passage he hp (hk.trans (by decide)), ho, Env.within_of_le]
  exact fun n hn => hk.trans (hl n hn)

variable (items thread)

lemma opening_brings : Brings items thread (.root book root none) .fresh
    ⟨false, none, none, #[welcome (view thread 1 ((book.script root).initVars none)),
        greet items (view thread 0 (.obj []))],
      some ⟨⟨0, .obj [], some "drink"⟩, [⟨1, (book.script root).initVars none, some "choose"⟩]⟩⟩ := by
  intro limit
  exact ⟨4, #[], [⟨1, (book.script root).initVars none, 0, none⟩], _, _, _, by omega,
    Turn.enter_root root none, opening_passage, rfl⟩

lemma served_brings {v' w' : Value} (hv : v' = storeChoice (view thread 0 v, input))
    (hw : w' = storeDrink (view thread 1 w, some (chosen (view thread 0 v'))))
    (h : isServed items (view thread 0 v') = true) :
    Brings items thread ⟨⟨0, v, some "drink"⟩, [⟨1, w, some "choose"⟩]⟩ (.resume input)
      ⟨false, none, some (tally (view thread 1 w', none)), #[offerMore (view thread 1 w')],
        some ⟨⟨1, w', some "more"⟩, []⟩⟩ := by
  intro limit
  obtain ⟨journal, he⟩ := enter_drink items limit thread v input
    (show ∀ f ∈ [(⟨1, w, some "choose"⟩ : Frame)], f.stopAt ≠ none by simp)
  subst hv hw
  exact ⟨5, journal, _, _, _, _, le_rfl, he, .go (branch_served h) (offer_passage finish_chosen), rfl⟩

lemma unserved_brings {v' : Value} (hv : v' = storeChoice (view thread 0 v, input))
    (h : isServed items (view thread 0 v') = false) :
    Brings items thread ⟨⟨0, v, some "drink"⟩, [⟨1, w, some "choose"⟩]⟩ (.resume input)
      ⟨false, none, none, #[apologise (view thread 0 v'), greet items (view thread 0 v')],
        some ⟨⟨0, v', some "drink"⟩, [⟨1, w, some "choose"⟩]⟩⟩ := by
  intro limit
  obtain ⟨journal, he⟩ := enter_drink items limit thread v input
    (show ∀ f ∈ [(⟨1, w, some "choose"⟩ : Frame)], f.stopAt ≠ none by simp)
  subst hv
  exact ⟨5, journal, _, _, _, _, le_rfl, he, unserved_passage h, rfl⟩

lemma more_brings {w' : Value} (hw : w' = storeMore (view thread 1 w, input))
    (h : wantsMore (view thread 1 w') = true) :
    Brings items thread ⟨⟨1, w, some "more"⟩, []⟩ (.resume input)
      ⟨false, none, none, #[greet items (view thread 0 (.obj []))],
        some ⟨⟨0, .obj [], some "drink"⟩, [⟨1, w', some "choose"⟩]⟩⟩ := by
  intro limit
  obtain ⟨journal, he⟩ := enter_more items limit thread w input
    (show ∀ f ∈ ([] : List Frame), f.stopAt ≠ none by simp)
  subst hw
  exact ⟨4, journal, _, _, _, _, by omega, he, more_passage h, rfl⟩

lemma enough_brings {w' : Value} (hw : w' = storeMore (view thread 1 w, input))
    (h : wantsMore (view thread 1 w') = false) :
    Brings items thread ⟨⟨1, w, some "more"⟩, []⟩ (.resume input)
      ⟨true, some (ordered (view thread 1 w')), none, #[thank (view thread 1 w')], none⟩ := by
  intro limit
  obtain ⟨journal, he⟩ := enter_more items limit thread w input
    (show ∀ f ∈ ([] : List Frame), f.stopAt ≠ none by simp)
  subst hw
  exact ⟨3, journal, _, _, _, _, by omega, he,
    .go (branch_enough h) (.go say_thank (.ends finish_ordered)), rfl⟩

end Outcomes

end Coffee

end Dialogue
