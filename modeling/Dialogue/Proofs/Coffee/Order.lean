import Dialogue.Proofs.Coffee.Course
import Dialogue.Proofs.Json.Fit
import Dialogue.Proofs.Uninterrupted

/-! The coffee bar takes just the orders that it is given. Whatever guests answer, its turns follow a small machine
that keeps a list of drinks. -/

namespace Dialogue.Coffee

variable {κ : Kinds}

inductive Order
  | choosing (taken : List String)
  | offering (taken : List String)
  | closed (taken : List String)

structure Sight where
  finished : Bool
  waits : List (ScriptId × Option String)
  yielded : Option Value
  returned : Option Value

def sight (o : Outcome) : Sight where
  finished := o.finished
  waits := ((o.stack.map CallStack.frames).getD []).map fun f => (f.script, f.stopAt)
  yielded := o.yielded
  returned := o.returned

def receipt (drink : String) : Value := .obj [("drinks", .arr [.str drink]), ("ordered", .int 1)]

def bill (drinks : List String) : Value := .obj [("orders", .arr (drinks.map .str))]

def accepted (items answers : List String) (outcomes : List Outcome) : List String :=
  ((answers.zip outcomes).filter fun (answer, o) =>
    (sight o).waits.head? = some (0, some "drink") ∧ answer ∈ items).map Prod.fst

namespace Order

def taken : Order → List String
  | choosing taken => taken
  | offering taken => taken
  | closed taken => taken

def step (items : List String) (answer : String) : Order → Option (Order × Option Value)
  | choosing taken =>
    if answer ∈ items then some (offering (taken ++ [answer]), some (receipt answer))
    else some (choosing taken, none)
  | offering taken =>
    if answer = "yes" ∨ answer = "y" then some (choosing taken, none) else some (closed taken, none)
  | closed _ => none

def course (items : List String) : List String → Order × Option Value → List (Order × Option Value)
  | [], now => [now]
  | answer :: answers, now => now ::
    match now.1.step items answer with
    | none => []
    | some after => course items answers after

def sight : Order × Option Value → Sight
  | (choosing _, yielded) => ⟨false, [(0, some "drink"), (1, some "choose")], yielded, none⟩
  | (offering _, yielded) => ⟨false, [(1, some "more")], yielded, none⟩
  | (closed taken, yielded) => ⟨true, [], yielded, some (bill taken)⟩

def Started : Order → Prop
  | choosing _ => True
  | offering taken => taken ≠ []
  | closed taken => taken ≠ []

end Order

def Holds (taken : List String) (vars : Value) : Prop := vars.get? "orders" = some (.arr (taken.map .str))

inductive Leaves : Order × Option Value → Outcome → Prop
  | choosing {taken v w yielded contents} : Holds taken w →
      Leaves (.choosing taken, yielded)
        ⟨false, none, yielded, contents, some ⟨⟨0, v, some "drink"⟩, [⟨1, w, some "choose"⟩]⟩⟩
  | offering {taken w yielded contents} : Holds taken w →
      Leaves (.offering taken, yielded) ⟨false, none, yielded, contents, some ⟨⟨1, w, some "more"⟩, []⟩⟩
  | closed {taken yielded contents} :
      Leaves (.closed taken, yielded) ⟨true, some (bill taken), yielded, contents, none⟩

variable {items taken answers : List String} {answer : String} {thread : Thread} {v w : Value}
  {input : Option Value} {now after : Order × Option Value} {o : Outcome} {outcomes : List Outcome}

section Variables

lemma var_self (script : ScriptId) (name : String) (x : Value) :
    (view thread script (v.set name x)).var? name = some x :=
  Value.get?_set_self v x name

lemma Holds.set {name : String} (h : Holds taken w) (hn : "orders" ≠ name) (x : Value) :
    Holds taken (w.set name x) := by
  rw [Holds, Value.get?_set_ne hn]
  exact h

lemma isServed_iff : isServed items (view thread 0 (storeChoice (view thread 0 v, input))) = true ↔
    words input ∈ items := by
  rw [isServed, textVar, storeChoice, var_self]
  exact List.contains_iff_mem

lemma chosen_storeChoice :
    chosen (view thread 0 (storeChoice (view thread 0 v, input))) = .obj [("drink", .str (words input))] := by
  rw [chosen, valueVar, storeChoice, var_self]
  rfl

lemma storeDrink_eq (h : Holds taken w) :
    storeDrink (view thread 1 w, some (.obj [("drink", .str answer)])) =
      (w.set "orders" (.arr ((taken ++ [answer]).map .str))).set "last" (.str answer) := by
  have hw : (view thread 1 w).var? "orders" = some (.arr (taken.map .str)) := h
  simp only [storeDrink, hw, List.map_append]
  rfl

lemma tally_storeDrink (h : Holds taken w) :
    tally (view thread 1 (storeDrink (view thread 1 w, some (.obj [("drink", .str answer)]))), none) =
      receipt answer := by
  rw [storeDrink_eq h, tally, valueVar, var_self]
  rfl

lemma Holds.storeDrink (h : Holds taken w) :
    Holds (taken ++ [answer]) (storeDrink (view thread 1 w, some (.obj [("drink", .str answer)]))) := by
  rw [storeDrink_eq h]
  apply Holds.set _ (by decide)
  exact Value.get?_set_self w _ "orders"

lemma wantsMore_iff : wantsMore (view thread 1 (storeMore (view thread 1 w, input))) = true ↔
    words input = "yes" ∨ words input = "y" := by
  rw [wantsMore, valueVar, storeMore, var_self]
  simp [Value.same, isYes]

lemma Holds.storeMore (h : Holds taken w) : Holds taken (storeMore (view thread 1 w, input)) :=
  h.set (by decide) _

lemma Holds.ordered (h : Holds taken w) : ordered (view thread 1 w) = bill taken := by
  have hw : (view thread 1 w).var? "orders" = some (.arr (taken.map .str)) := h
  rw [Coffee.ordered, valueVar, hw]
  rfl

end Variables

section Steps

lemma Order.Started.step (h : now.1.Started) (hs : now.1.step items answer = some after) : after.1.Started := by
  obtain ⟨order, yielded⟩ := now
  cases order with
  | choosing taken =>
    simp only [Order.step] at hs
    split_ifs at hs <;> cases hs <;> simp [Order.Started]
  | offering taken =>
    simp only [Order.step] at hs
    split_ifs at hs <;> cases hs
    · trivial
    · exact h
  | closed taken => cases hs

lemma Leaves.sight_eq (h : Leaves now o) : sight o = Order.sight now := by
  cases h <;> rfl

lemma Leaves.stack_eq_none_iff (h : Leaves now o) : o.stack = none ↔ ∃ taken, now.1 = .closed taken := by
  cases h <;> simp

lemma Leaves.finished_iff (h : Leaves now o) : o.finished = true ↔ ∃ taken, now.1 = .closed taken := by
  cases h <;> simp

lemma Leaves.step {stack : CallStack} (h : Leaves now o) (hs : o.stack = some stack) (items : List String)
    (thread : Thread) (input : Option Value) :
    ∃ after o', now.1.step items (words input) = some after ∧ Leaves after o' ∧
      Brings items thread stack (.resume input) o' := by
  cases h with
  | @choosing taken v w yielded contents hw =>
    cases hs
    by_cases hm : words input ∈ items
    · have hy : isServed items (view thread 0 (storeChoice (view thread 0 v, input))) = true :=
        isServed_iff.mpr hm
      have hb := served_brings items thread (w := w) rfl rfl hy
      rw [chosen_storeChoice, tally_storeDrink hw] at hb
      exact ⟨_, _, if_pos hm, .offering hw.storeDrink, hb⟩
    · have hn : isServed items (view thread 0 (storeChoice (view thread 0 v, input))) = false :=
        Bool.eq_false_iff.mpr (mt isServed_iff.mp hm)
      exact ⟨_, _, if_neg hm, .choosing hw, unserved_brings items thread rfl hn⟩
  | @offering taken w yielded contents hw =>
    cases hs
    by_cases hm : words input = "yes" ∨ words input = "y"
    · exact ⟨_, _, if_pos hm, .choosing hw.storeMore, more_brings items thread rfl (wantsMore_iff.mpr hm)⟩
    · have hn : wantsMore (view thread 1 (storeMore (view thread 1 w, input))) = false :=
        Bool.eq_false_iff.mpr (mt wantsMore_iff.mp hm)
      have hb := enough_brings items thread rfl hn
      rw [hw.storeMore.ordered] at hb
      exact ⟨_, _, if_neg hm, .closed, hb⟩
  | closed => cases hs

lemma opening_leaves (items : List String) (thread : Thread) (params : Option Value) :
    ∃ o, Leaves (.choosing [], none) o ∧ Brings items thread (.root book root params) .fresh o :=
  have hw : Holds [] ((book.script root).initVars none) := rfl
  ⟨_, .choosing hw, opening_brings items thread⟩

end Steps

section Series

variable {env : Env κ} {fuel : Nat} {stack stack' : CallStack} {entry : Entry} {inputs : List (Option Value)}

lemma series_last (h : (Turn.play env fuel stack entry).map Turn.shown = some (.ok o))
    (hi : inputs = [] ∨ o.stack = none) : Turn.series env fuel inputs stack entry = [some (.ok o)] := by
  rw [Turn.series, h]
  rcases hi with rfl | ho
  · rfl
  · cases inputs <;> simp [ho]

lemma series_resumed (h : (Turn.play env fuel stack entry).map Turn.shown = some (.ok o))
    (ho : o.stack = some stack') : Turn.series env fuel (input :: inputs) stack entry =
      some (.ok o) :: Turn.series env fuel inputs stack' (.resume input) := by
  rw [Turn.series, h]
  simp only [ho]

lemma Leaves.series {limit : Option Nat} (inputs : List (Option Value)) (hl : ∀ n ∈ limit, 5 ≤ n)
    (h : Leaves now o) (hb : Brings items thread stack entry o) :
    ∃ outcomes, Turn.series (bar items limit thread) Turn.ample inputs stack entry =
        outcomes.map (fun o => some (.ok o)) ∧
      List.Forall₂ Leaves (Order.course items (inputs.map words) now) outcomes := by
  -- The order and the stack go together from answer to answer, until both have come to their end.
  induction inputs generalizing now o stack entry with
  | nil => exact ⟨[o], series_last (hb.shown hl) (.inl rfl), .cons h .nil⟩
  | cons input inputs ih =>
    cases ho : o.stack with
    | none =>
      obtain ⟨taken, hc⟩ := h.stack_eq_none_iff.mp ho
      refine ⟨[o], series_last (hb.shown hl) (.inr ho), ?_⟩
      rw [List.map_cons, Order.course, hc]
      exact .cons h .nil
    | some stack' =>
      obtain ⟨after, o', hstep, h', hb'⟩ := h.step ho items thread input
      obtain ⟨outcomes, he, hf⟩ := ih h' hb'
      refine ⟨o :: outcomes, by rw [series_resumed (hb.shown hl) ho, he]; rfl, ?_⟩
      rw [List.map_cons, Order.course, hstep]
      exact .cons h hf

lemma sight_of_course {nows : List (Order × Option Value)} (h : List.Forall₂ Leaves nows outcomes) :
    outcomes.map sight = nows.map Order.sight := by
  induction h with
  | nil => rfl
  | cons h _ ih => rw [List.map_cons, List.map_cons, h.sight_eq, ih]

lemma Leaves.taken_step (h : Leaves now o) (hs : now.1.step items answer = some after) :
    now.1.taken ++ accepted items (answer :: answers) (o :: outcomes) =
      after.1.taken ++ accepted items answers outcomes := by
  cases h with
  | choosing hw =>
    simp only [Order.step] at hs
    split_ifs at hs with hm <;> cases hs <;>
      simp [accepted, sight, CallStack.frames, Order.taken, hm]
  | offering hw =>
    simp only [Order.step] at hs
    split_ifs at hs <;> cases hs <;> simp [accepted, sight, CallStack.frames, Order.taken]
  | closed => cases hs

lemma Leaves.returned_eq (h : Leaves now o) (hs : now.1.Started) (hfin : o.finished = true)
    (items answers : List String) :
    o.returned = some (bill (now.1.taken ++ accepted items answers [o])) ∧
      now.1.taken ++ accepted items answers [o] ≠ [] := by
  cases h with
  | @closed taken yielded contents =>
    have ha : accepted items answers [⟨true, some (bill taken), yielded, contents, none⟩] = [] := by
      cases answers <;> simp [accepted, sight]
    rw [ha, List.append_nil]
    exact ⟨rfl, hs⟩
  | _ => cases hfin

lemma returned_of_course (hf : List.Forall₂ Leaves (Order.course items answers now) outcomes)
    (hs : now.1.Started) (ho : o ∈ outcomes) (hfin : o.finished = true) :
    o.returned = some (bill (now.1.taken ++ accepted items answers outcomes)) ∧
      now.1.taken ++ accepted items answers outcomes ≠ [] := by
  induction answers generalizing now outcomes with
  | nil =>
    obtain ⟨o', rest, h, hrest, rfl⟩ := List.forall₂_cons_left_iff.mp hf
    cases hrest
    cases List.mem_singleton.mp ho
    exact h.returned_eq hs hfin items []
  | cons answer answers ih =>
    obtain ⟨o', rest, h, hrest, rfl⟩ := List.forall₂_cons_left_iff.mp hf
    cases hstep : now.1.step items answer with
    | none =>
      rw [hstep] at hrest
      cases hrest
      cases List.mem_singleton.mp ho
      exact h.returned_eq hs hfin items (answer :: answers)
    | some after =>
      rw [hstep] at hrest
      rw [h.taken_step hstep]
      rcases List.mem_cons.mp ho with rfl | ho
      · obtain ⟨taken, hc⟩ := h.finished_iff.mp hfin
        rw [hc] at hstep
        cases hstep
      · exact ih hrest (hs.step hstep) ho

theorem series_takes_order (items : List String) (thread : Thread) {limit : Option Nat} (params : Option Value)
    (inputs : List (Option Value)) (hl : ∀ n ∈ limit, 5 ≤ n) :
    ∃ outcomes : List Outcome,
      Turn.series (bar items limit thread) Turn.ample inputs (.root book root params) .fresh =
        outcomes.map (fun o => some (.ok o)) ∧
      outcomes.map sight = (Order.course items (inputs.map words) (.choosing [], none)).map Order.sight ∧
      ∀ o ∈ outcomes, o.finished = true →
        ∃ drinks, o.returned = some (bill drinks) ∧ drinks = accepted items (inputs.map words) outcomes ∧
          drinks ≠ [] ∧ ∀ drink ∈ drinks, drink ∈ items := by
  obtain ⟨o, h, hb⟩ := opening_leaves items thread params
  obtain ⟨outcomes, he, hf⟩ := h.series inputs hl hb
  refine ⟨outcomes, he, sight_of_course hf, fun o ho hfin => ?_⟩
  obtain ⟨hr, hne⟩ := returned_of_course hf trivial ho hfin
  refine ⟨_, hr, rfl, hne, fun drink hd => ?_⟩
  simp only [accepted, Order.taken, List.nil_append, List.mem_map, List.mem_filter] at hd
  obtain ⟨⟨answer, o'⟩, ⟨-, hm⟩, rfl⟩ := hd
  simpa using (of_decide_eq_true hm).2

def visit : List (Option Value) :=
  [some (.str " Tea\n"), some (.str "Y"), none, some (.int 7), some (.str "latte"), some (.arr []), some (.str "tea")]

theorem visit_series_takes_order : (∀ n ∈ some 5, 5 ≤ n) ∧ ∃ outcomes : List Outcome,
    Turn.series (bar ["latte", "tea"] (some 5) ⟨"cli", "ann"⟩) Turn.ample visit (.root book root none) .fresh =
      outcomes.map (fun o => some (.ok o)) ∧
    outcomes.map sight = [(.choosing [], none), (.offering ["tea"], some (receipt "tea")), (.choosing ["tea"], none),
      (.choosing ["tea"], none), (.choosing ["tea"], none), (.offering ["tea", "latte"], some (receipt "latte")),
      (.closed ["tea", "latte"], none)].map Order.sight := by
  have hl : ∀ n ∈ some 5, 5 ≤ n := by simp
  obtain ⟨outcomes, he, hs, -⟩ := series_takes_order ["latte", "tea"] ⟨"cli", "ann"⟩ none visit hl
  refine ⟨hl, outcomes, he, hs.trans ?_⟩
  cbv

end Series

end Dialogue.Coffee
