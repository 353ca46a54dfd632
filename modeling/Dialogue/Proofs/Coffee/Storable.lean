import Dialogue.Proofs.Coffee.Course
import Dialogue.Proofs.Json.Fit

/-! Whatever guests answer, the variables of the two scripts stay such that they can be stored: no hook makes
them nest deeper than they did, if there was room for the list of orders. -/

namespace Dialogue

variable {κ : Kinds}

def Finale.Leaves (P : Value → Prop) : Finale → Prop
  | asks frames => ∀ f ∈ frames, P f.vars
  | _ => True

lemma Finale.report_eq_ok {contents : Array Value} {queued : List PendingYield} {fin : Finale} {o : Outcome}
    (h : fin.report contents queued = .ok o) :
    (o.finished = true ∧ o.stack = none) ∨ ∃ frames, fin = .asks frames ∧ o.finished = false ∧
      o.stack = CallStack.ofFrames? (frames.map Activation.atRest) := by
  cases fin with
  | fails e => cases h
  | asks frames =>
    rw [report] at h
    cases hy : PendingYield.fold queued with
    | error e => simp [hy, Except.map] at h
    | ok yielded =>
      rw [hy] at h
      cases h
      exact .inr ⟨frames, rfl, rfl, rfl⟩
  | ends value =>
    rw [report] at h
    cases hy : PendingYield.fold queued with
    | error e => simp [hy, Except.map] at h
    | ok yielded =>
      rw [hy] at h
      cases h
      exact .inl ⟨rfl, rfl⟩

namespace Coffee

open Value

variable {items : List String} {limit : Option Nat} {thread : Thread} {depth : Nat} {v w : Value}
  {script : ScriptId} {input value : Option Value}

lemma storeChoice_fit (h : v.Fit (depth + 1)) : (storeChoice (view thread script v, input)).Fit (depth + 1) :=
  h.set (fit_str _)

lemma storeMore_fit (h : w.Fit (depth + 1)) : (storeMore (view thread script w, input)).Fit (depth + 1) :=
  h.set (fit_bool _)

lemma storeDrink_fit (h : w.Fit (depth + 2))
    (hd : ∀ drink, (value.bind fun v => v.get? "drink") = some drink → drink.Fit depth) :
    (storeDrink (view thread script w, value)).Fit (depth + 2) := by
  have hdrink : ((value.bind fun v => v.get? "drink").getD .null).Fit depth := by
    cases hg : value.bind fun v => v.get? "drink" with
    | none => exact fit_null
    | some drink => exact hd drink hg
  have horders : ∀ x ∈ ((w.get? "orders").bind items?).getD [], x.Fit depth := by
    cases hg : w.get? "orders" with
    | none => simp
    | some orders =>
      cases hi : orders.items? with
      | none => simp [hi]
      | some xs => simpa [hi] using (h.get? hg).items hi
  refine (h.set (fit_arr ?_)).set hdrink.succ
  intro x hx
  rcases List.mem_append.mp hx with hx | hx
  · exact horders x hx
  · rw [List.mem_singleton.mp hx]
    exact hdrink

lemma empty_fit : (Value.obj []).Fit (depth + 1) := fit_obj List.Pairwise.nil (by simp)

lemma initVars_fit : ((book.script root).initVars none).Fit (depth + 2) :=
  fit_obj (List.pairwise_singleton _ _) (by
    intro f hf
    rw [List.mem_singleton.mp hf]
    exact fit_arr (by simp))

lemma chosen_drink_fit (drink : Value)
    (h : ((some (chosen (view thread 0 (storeChoice (view thread 0 v, input))))).bind
      fun v => v.get? "drink") = some drink) : drink.Fit depth := by
  have hc : (storeChoice (view thread 0 v, input)).get? "choice" = some (.str (words input)) :=
    get?_set_self v _ "choice"
  have hv : valueVar (view thread 0 (storeChoice (view thread 0 v, input))) "choice" = .str (words input) :=
    congrArg (fun x : Option Value => x.getD .null) hc
  rw [chosen, hv] at h
  cases h
  exact fit_str _

section Courses

variable {f : Activation} {callers : List Activation}

def Storing (depth : Nat) (env : Env κ) (n : Nat) (frames : List Activation) : Prop :=
  ∃ k said queued fin, k ≤ n ∧ Passage env k frames said queued fin ∧
    ((∀ f ∈ frames, f.vars.Fit depth) → fin.Leaves (Fit depth))

lemma Storing.go {env : Env κ} {n : Nat} {f' : Activation} {said : List Value} {queued : List PendingYield}
    (ha : f.action env = .ok (.go f' said queued)) (hv : f'.vars = f.vars)
    (h : Storing depth env n (f' :: callers)) : Storing depth env (n + 1) (f :: callers) := by
  obtain ⟨k, said', queued', fin, hk, hp, hl⟩ := h
  refine ⟨k + 1, _, _, fin, by omega, .go ha hp, fun hf => hl ?_⟩
  rw [List.forall_mem_cons, hv]
  exact List.forall_mem_cons.mp hf

lemma leave_storing (hf : f.action (bar items limit thread) = .ok (.leave value))
    (hk : ∀ c ∈ callers, c.script = 0 ∨ c.script = 1)
    (hd : ∀ drink, (value.bind fun v => v.get? "drink") = some drink → drink.Fit depth) :
    Storing (depth + 2) (bar items limit thread) 4 (f :: callers) := by
  rcases leave_cases hf hk with ⟨-, hp⟩ | ⟨e, hp⟩ | ⟨w, i, rest, rfl⟩
  · exact ⟨1, _, _, _, by omega, hp, fun _ => trivial⟩
  · exact ⟨1, _, _, _, by omega, hp, fun _ => trivial⟩
  · refine ⟨4, _, _, _, le_rfl, offer_passage hf, fun hv => ?_⟩
    obtain ⟨hw, hr⟩ := List.forall_mem_cons.mp (List.forall_mem_cons.mp hv).2
    exact List.forall_mem_cons.mpr ⟨storeDrink_fit hw hd, hr⟩

lemma drink_storing (hk : ∀ c ∈ callers, c.script = 0 ∨ c.script = 1) :
    Storing (depth + 2) (bar items limit thread) 5
      (⟨0, storeChoice (view thread 0 v, input), 2, none⟩ :: callers) := by
  cases hs : isServed items (view thread 0 (storeChoice (view thread 0 v, input))) with
  | true => exact .go (branch_served hs) rfl (leave_storing finish_chosen hk chosen_drink_fit)
  | false =>
    refine ⟨5, _, _, _, le_rfl, unserved_passage hs, fun hv => ?_⟩
    exact List.forall_mem_cons.mpr (List.forall_mem_cons.mp hv)

lemma more_storing (hk : ∀ c ∈ callers, c.script = 0 ∨ c.script = 1) :
    Storing (depth + 2) (bar items limit thread) 6 (⟨1, w, 5, none⟩ :: callers) := by
  cases hs : wantsMore (view thread 1 w) with
  | true =>
    refine ⟨4, _, _, _, by omega, more_passage hs, fun hv => ?_⟩
    exact List.forall_mem_cons.mpr ⟨empty_fit, List.forall_mem_cons.mpr (List.forall_mem_cons.mp hv)⟩
  | false =>
    -- What the order returns has no drink in it.
    refine .go (branch_enough hs) rfl (.go say_thank rfl (leave_storing finish_ordered hk ?_))
    rintro drink ⟨⟩

end Courses

section Turns

variable {stack : CallStack} {entry : Entry}

def Stores (depth : Nat) (env : Env κ) (stack : CallStack) (entry : Entry) : Prop :=
  ∃ r, (Turn.play env Turn.ample stack entry).map Turn.shown = some r ∧
    ∀ o stack', r = .ok o → o.stack = some stack' → (∀ f ∈ stack.frames, f.vars.Fit depth) →
      ∀ f ∈ stack'.frames, f.vars.Fit depth

lemma Storing.stores {env : Env κ} {n : Nat} {frames : List Activation} {journal : Array Event}
    (h : Storing depth env n frames) (hn : n ≤ 6)
    (he : Turn.enter env stack entry {} = .ok () { frames, journal })
    (hf : (∀ f ∈ stack.frames, f.vars.Fit depth) → ∀ f ∈ frames, f.vars.Fit depth) :
    Stores depth env stack entry := by
  obtain ⟨k, said, queued, fin, hk, hp, hl⟩ := h
  have ha : k ≤ Turn.ample := (hk.trans hn).trans (by decide)
  refine ⟨_, Turn.shown_play_passage he hp ha, fun o stack' ho hs hv => ?_⟩
  rcases Finale.report_eq_ok (Env.eq_ok_of_within ho) with ⟨-, hn⟩ | ⟨fs, rfl, -, hs'⟩
  · rw [hn] at hs
    cases hs
  · have hfs : stack'.frames = fs.map Activation.atRest := by
      rw [hs'] at hs
      cases fs with
      | nil => cases hs
      | cons f fs =>
        cases hs
        rfl
    rw [hfs, List.forall_mem_map]
    exact hl (hf hv)

lemma fresh_stores : Stores (depth + 2) (bar items limit thread) (.root book root none) .fresh := by
  have hs : Storing (depth + 2) (bar items limit thread) 4 [⟨1, (book.script root).initVars none, 0, none⟩] :=
    ⟨4, _, _, _, le_rfl, opening_passage, fun hv =>
      List.forall_mem_cons.mpr ⟨empty_fit, List.forall_mem_cons.mpr (List.forall_mem_cons.mp hv)⟩⟩
  refine hs.stores (by omega) (Turn.enter_root root none) fun _ => ?_
  exact List.forall_mem_cons.mpr ⟨initVars_fit, by simp⟩

lemma resume_stores (hk : ∀ f ∈ stack.frames, f.script = 0 ∨ f.script = 1) :
    Stores (depth + 2) (bar items limit thread) stack (.resume input) := by
  rcases resume_cases limit thread input (hk _ List.mem_cons_self) with ⟨e, m, he⟩ | ⟨frames, hs, hq⟩
  · refine ⟨.error e, ?_, by rintro o stack' ⟨⟩⟩
    rw [Turn.shown_play, he]
  · have hc : ∀ c ∈ frames.map Turn.activate, c.script = 0 ∨ c.script = 1 := by
      rw [List.forall_mem_map]
      intro f hf
      rcases hq with ⟨v, rfl⟩ | ⟨w, rfl⟩ <;> exact hk f (List.mem_cons_of_mem _ hf)
    rcases hq with ⟨v, rfl⟩ | ⟨w, rfl⟩
    · obtain ⟨journal, he⟩ := enter_drink items limit thread v input hs
      refine (drink_storing hc).stores (by omega) he fun hv => ?_
      obtain ⟨hv, hf⟩ := List.forall_mem_cons.mp hv
      exact List.forall_mem_cons.mpr ⟨storeChoice_fit hv, List.forall_mem_map.mpr hf⟩
    · obtain ⟨journal, he⟩ := enter_more items limit thread w input hs
      refine (more_storing hc).stores (by omega) he fun hv => ?_
      obtain ⟨hv, hf⟩ := List.forall_mem_cons.mp hv
      exact List.forall_mem_cons.mpr ⟨storeMore_fit hv, List.forall_mem_map.mpr hf⟩

end Turns

end Coffee

end Dialogue
