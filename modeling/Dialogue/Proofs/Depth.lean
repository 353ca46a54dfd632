import Dialogue.Proofs.Continuation
import Dialogue.Proofs.Frames

/-! The frames of a dialogue do not pile up. Every caller waits at a call of the frame above it, so there are no
more of them than calls can stand inside each other. -/

namespace Dialogue

variable {κ : Kinds}

namespace Playbook

inductive CallChain (book : Playbook κ) : ScriptId → List (Command κ) → Prop
  | nil (i : ScriptId) : CallChain book i []
  | cons {i j : ScriptId} {c : Command κ} {rest : List (Command κ)} : c ∈ (book.script i).commands →
      c.callee? = some j → CallChain book j rest → CallChain book i (c :: rest)

def callDepth (book : Playbook κ) (i : ScriptId) : Nat :=
  ((book.script i).callees.attach.map fun j => callDepth book j.1 + 1).max?.getD 0
termination_by i
decreasing_by exact book.lt_of_mem_callees j.2

variable {book : Playbook κ} {i j : ScriptId} {n : Nat} {chain : List (Command κ)}

lemma callDepth_eq (book : Playbook κ) (i : ScriptId) :
    book.callDepth i = ((book.script i).callees.map fun j => book.callDepth j + 1).max?.getD 0 := by
  rw [callDepth, List.attach_map_val (f := fun j => book.callDepth j + 1)]

lemma callDepth_lt_of_calls (h : book.Calls i j) : book.callDepth j < book.callDepth i := by
  rw [callDepth_eq book i]
  apply List.le_max?_getD_of_mem
  exact List.mem_map.mpr ⟨j, h, rfl⟩

lemma exists_calls_of_callDepth (h : book.callDepth i = n + 1) : ∃ j, book.Calls i j ∧ book.callDepth j = n := by
  rw [callDepth_eq] at h
  cases hm : ((book.script i).callees.map fun j => book.callDepth j + 1).max? with
  | none =>
    rw [hm] at h
    cases h
  | some k =>
    obtain ⟨j, hj, hk⟩ := List.mem_map.mp (List.max?_mem hm)
    rw [hm, Option.getD_some] at h
    exact ⟨j, hj, by omega⟩

lemma CallChain.length_le (h : book.CallChain i chain) : chain.length ≤ book.callDepth i := by
  induction h with
  | nil i => exact Nat.zero_le _
  | @cons i j c rest hc hj _ ih =>
    have hlt : book.callDepth j < book.callDepth i := by
      apply callDepth_lt_of_calls
      exact List.mem_filterMap.mpr ⟨c, hc, hj⟩
    rw [List.length_cons]
    omega

lemma exists_callChain (h : book.callDepth i = n) : ∃ chain, book.CallChain i chain ∧ chain.length = n := by
  induction n generalizing i with
  | zero => exact ⟨[], .nil i, rfl⟩
  | succ n ih =>
    obtain ⟨j, hj, hn⟩ := exists_calls_of_callDepth h
    obtain ⟨c, hc, hcj⟩ := List.mem_filterMap.mp hj
    obtain ⟨rest, hr, hl⟩ := ih hn
    exact ⟨c :: rest, .cons hc hcj hr, by rw [List.length_cons, hl]⟩

lemma callDepth_isGreatest (book : Playbook κ) (i : ScriptId) :
    IsGreatest {n | ∃ chain, book.CallChain i chain ∧ chain.length = n} (book.callDepth i) := by
  constructor
  · exact exists_callChain rfl
  · rintro n ⟨chain, hc, rfl⟩
    exact hc.length_le

end Playbook

lemma Chain.length_le {book : Playbook κ} {root inner : ScriptId} {callers : List Frame}
    (h : Chain book root inner callers) :
    callers.length + book.callDepth inner ≤ book.callDepth root := by
  induction h with
  | root => exact Nat.le_of_eq (Nat.zero_add _)
  | call ha _ ih =>
    have hlt := Playbook.callDepth_lt_of_calls ha.calls
    rw [List.length_cons]
    omega

lemma CallStack.WellFormed.length_le {book : Playbook κ} {root : ScriptId} {stack : CallStack}
    (h : stack.WellFormed book root) : stack.frames.length ≤ 1 + book.callDepth root := by
  have hle := h.chain.length_le
  rw [frames, List.length_cons]
  omega

namespace Machine

variable {α β : Type} (env : Env κ) {m : Machine}

def Pushless (x : Act α) : Prop := ∀ m, (left (x m)).frames.length ≤ m.frames.length

def PushlessAtEnd (x : Act Status) : Prop :=
  ∀ m, (∃ m', x m = .ok .running m') ∨ (left (x m)).frames.length ≤ m.frames.length

lemma Framed.pushless {x : Act α} (hx : Framed x) : Pushless x := fun m => Nat.le_of_eq (by rw [hx m])

lemma Pushless.atEnd {x : Act Status} (hx : Pushless x) : PushlessAtEnd x := fun m => .inr (hx m)

lemma Pushless.bind {x : Act α} {k : α → Act β} (hx : Pushless x) (hk : ∀ a, Pushless (k a)) :
    Pushless (x >>= k) := by
  intro m
  have hm := hx m
  rcases bind_cases x k m with ⟨e, m₁, h, hb⟩ | ⟨a, m₁, h, hb⟩
  · rw [hb]
    rwa [h] at hm
  · rw [h] at hm
    rw [hb]
    exact (hk a m₁).trans hm

lemma Pushless.bind_atEnd {x : Act α} {k : α → Act Status} (hx : Pushless x) (hk : ∀ a, PushlessAtEnd (k a)) :
    PushlessAtEnd (x >>= k) := by
  intro m
  have hm := hx m
  rcases bind_cases x k m with ⟨e, m₁, h, hb⟩ | ⟨a, m₁, h, hb⟩
  · right
    rw [hb]
    rwa [h] at hm
  · rw [h] at hm
    rw [hb]
    exact (hk a m₁).imp id fun hle => hle.trans hm

lemma pushless_update (change : Activation → Activation) : Pushless (update change) := by
  intro m
  rw [update]
  split
  · exact Nat.le_refl _
  · next f callers hf => simp [left, hf]

lemma pushless_absorb (store : Option (Update κ)) (input : Option Value) : Pushless (absorb env store input) := by
  cases store with
  | none => exact (framed_pure ()).pushless
  | some hook =>
    apply (framed_resolve env hook).pushless.bind
    intro routine
    apply (framed_context env).pushless.bind
    intro c
    exact (framed_invoke routine _).pushless.bind fun _ => pushless_update _

lemma pushless_answer (index : Nat) (store : Option (Update κ)) (input : Option Value) :
    Pushless (answer env index store input) :=
  (pushless_absorb env store input).bind fun _ => pushless_update _

lemma pushless_advance (offset : Int64) : Pushless (advance env offset) := by
  intro m
  cases hf : m.frames with
  | nil =>
    have hi : innermost m = .error (.malformed .noFrame) m := by simp [innermost, hf]
    rw [advance, bind_error hi, left, hf]
  | cons f callers =>
    rw [advance_eq env offset hf]
    cases f.jump env offset <;> simp [left, hf]

lemma pushless_assign (store : Option (Query κ)) : Pushless (assign env store) := by
  apply (framed_evaluate? env store).pushless.bind
  intro vars
  cases vars with
  | none => exact (framed_pure ()).pushless
  | some vars => exact pushless_update _

lemma pushless_prepare {c : Command κ} {x : Act Int64} (h : prepare? env c = some x) : Pushless x := by
  cases c with
  | say content =>
    cases h
    exact ((framed_evaluate env content).bind fun _ _ => rfl).pushless
  | ask key store => cases h
  | call key callee entry params store => cases h
  | jump offset =>
    cases h
    exact (framed_pure offset).pushless
  | branch condition negated offset =>
    cases h
    exact ((framed_evaluate env condition).bind fun _ => framed_pure _).pushless
  | finish value => cases h
  | effect store emit =>
    cases h
    apply (pushless_assign env store).bind
    exact fun _ => ((framed_queue env emit).bind fun _ => framed_pure _).pushless

lemma pushless_complete (value : Option Value) : Pushless (complete env value) := by
  intro m
  cases hf : m.frames with
  | nil =>
    have hc : complete env value m = .ok (.ended value) m := by
      rw [complete, bind_get, hf]
      rfl
    rw [hc, left, hf]
  | cons f callers =>
    rw [complete_eq env value hf]
    cases callers with
    | nil => exact Nat.zero_le _
    | cons c rest =>
      simp only [handOver]
      cases c.receive env value <;> simp [left]

lemma call_pushlessAtEnd (key : String) (callee : ScriptId) (entry : Option String) (params : Option (Query κ)) :
    PushlessAtEnd (call env key callee entry params) := by
  apply (framed_evaluate? env params).pushless.bind_atEnd
  intro given
  have hp : ∀ index, PushlessAtEnd (do
      update fun f => { f with stopAt := some key }
      push { script := callee, vars := (env.book.script callee).initVars given, index }
      return .running) := by
    intro index
    exact (pushless_update _).bind_atEnd fun _ m => .inl ⟨_, rfl⟩
  cases entry with
  | none => exact hp 0
  | some place =>
    cases hi : (env.book.script callee).stopIndex place with
    | error e =>
      simp only [hi]
      exact fun m => .inr (Nat.le_refl _)
    | ok index =>
      simp only [hi]
      exact hp index

lemma dispatch_pushlessAtEnd (c : Command κ) : PushlessAtEnd (dispatch env c) := by
  cases hx : prepare? env c with
  | some x =>
    rw [dispatch_eq_advance hx]
    exact ((pushless_prepare env hx).bind (pushless_advance env)).atEnd
  | none =>
    cases c with
    | say content => cases hx
    | ask key store => exact ((pushless_update _).bind fun _ => (framed_pure _).pushless).atEnd
    | call key callee entry params store => exact call_pushlessAtEnd env key callee entry params
    | jump offset => cases hx
    | branch condition negated offset => cases hx
    | finish value => exact ((framed_evaluate? env value).pushless.bind (pushless_complete env)).atEnd
    | effect store emit => cases hx

lemma step_pushlessAtEnd : PushlessAtEnd (step env) := by
  apply Pushless.bind_atEnd
  · intro m
    rw [count]
    split
    · exact Nat.le_refl _
    · split <;> exact Nat.le_refl _
  · intro _ m
    rw [bind_get]
    cases next? env m with
    | none => exact .inr (pushless_complete env none m)
    | some c => exact dispatch_pushlessAtEnd env c m

variable {env} {book : Playbook κ} {root : ScriptId}

lemma Linked.length_le (h : m.Linked book root) : m.frames.length ≤ 1 + book.callDepth root := by
  obtain ⟨f, callers, hf, hc⟩ := h
  have hle := hc.length_le
  rw [List.length_map] at hle
  rw [hf, List.length_cons]
  omega

lemma Linked.step_length_le (h : m.Linked env.book root) :
    (left (step env m)).frames.length ≤ 1 + env.book.callDepth root := by
  rcases step_pushlessAtEnd env m with ⟨m', hs⟩ | hle
  · have hk := step_keeps h
    rw [hs] at hk ⊢
    exact Linked.length_le hk
  · exact hle.trans h.length_le

end Machine

namespace Turn

open Machine

variable {env : Env κ} {book : Playbook κ} {root : ScriptId} {stack : CallStack} {entry : Entry} {m : Machine}

variable (env stack entry) in
inductive Visits : Machine → Prop
  | entry : Visits (left (enter env stack entry {}))
  | step {m₀ m : Machine} {k : Nat} : enter env stack entry {} = .ok () m₀ → Steps env k m₀ m →
      Visits (left (Machine.step env m))
  | close {fuel : Nat} {r : EStateM.Result RunError Machine Outcome} :
      play env fuel stack entry = some r → Visits (left r)

lemma left_close_frames (r : EStateM.Result RunError Machine Status) : (left (close r)).frames = (left r).frames := by
  cases r with
  | error e m => rfl
  | ok status m => rw [close, left_settle, noted_frames, left]

lemma enter_length_le (h : Enters env.book root stack entry) :
    (left (enter env stack entry {})).frames.length ≤ 1 + env.book.callDepth root := by
  cases entry with
  | fresh =>
    obtain ⟨params, rfl⟩ := h
    rw [enter_root]
    exact Nat.le_add_right 1 _
  | resume input =>
    obtain ⟨key, index, store, hk, -, hc⟩ := CallStack.WellFormed.asks h
    rw [enter_resume input (frames_stopAt_ne h) hk hc]
    have hle := pushless_answer env index store input (entered stack)
    rw [entered, List.length_map] at hle
    exact hle.trans (CallStack.WellFormed.length_le h)

lemma steps_length_le {m₀ : Machine} {k : Nat} (h : Enters env.book root stack entry)
    (he : enter env stack entry {} = .ok () m₀) (hs : Steps env k m₀ m) :
    (left (Machine.step env m)).frames.length ≤ 1 + env.book.callDepth root :=
  ((enter_linked h he).steps hs).step_length_le

lemma left_of_play {fuel : Nat} {r : EStateM.Result RunError Machine Outcome}
    (hp : play env fuel stack entry = some r) :
    left r = left (enter env stack entry {}) ∨
    ∃ m₀ m k, enter env stack entry {} = .ok () m₀ ∧ Steps env k m₀ m ∧
      (left r).frames = (left (Machine.step env m)).frames := by
  rw [play_eq] at hp
  cases he : enter env stack entry {} with
  | error e m =>
    rw [he] at hp
    cases hp
    exact .inl rfl
  | ok _ m₀ =>
    right
    rw [he] at hp
    obtain ⟨r', hr, rfl⟩ := Option.map_eq_some_iff.mp hp
    obtain ⟨k, m, -, hs, rfl, -⟩ := run_eq_some hr
    exact ⟨m₀, m, k, rfl, hs, left_close_frames _⟩

theorem frames_le_longest_chain {scope : Scope κ} {thread : Thread} {limit : Option Nat}
    (h : Occurs book root stack entry) (hv : Visits ⟨book, scope, thread, limit⟩ stack entry m) :
    IsGreatest {n | ∃ chain, book.CallChain root chain ∧ chain.length = n} (book.callDepth root) ∧
    m.frames.length ≤ 1 + book.callDepth root := by
  refine ⟨book.callDepth_isGreatest root, ?_⟩
  cases hv with
  | entry => exact enter_length_le h.enters
  | step he hs => exact steps_length_le h.enters he hs
  | close hp =>
    rcases left_of_play hp with hl | ⟨m₀, m, k, he, hs, hl⟩
    · rw [hl]
      exact enter_length_le h.enters
    · rw [hl]
      exact steps_length_le h.enters he hs

end Turn

namespace Coffee

def moreAsked : CallStack :=
  ⟨⟨1, .obj [("last", .str "tea"), ("orders", .arr [.str "tea"])], some "more"⟩, []⟩

lemma second_turn : ∃ o m,
    Turn.play (env none ⟨"cli", "guest"⟩) 5 drinkAsked (.resume (some (.str "tea"))) = some (.ok o m) ∧
      o.stack = some moreAsked :=
  Turn.left?_eq_some (by cbv)

lemma moreAsked_occurs : Turn.Occurs book root moreAsked (.resume (some (.str "yes"))) := by
  obtain ⟨o₁, m₁, hp₁, hs₁⟩ := first_turn
  obtain ⟨o₂, m₂, hp₂, hs₂⟩ := second_turn
  exact .resume _ (.resume _ (.start none) hp₁ hs₁) hp₂ hs₂

lemma callDepth_root : book.callDepth root = 1 := by
  have hr : (book.script root).callees = [0] := rfl
  have hc : (book.script 0).callees = [] := rfl
  rw [Playbook.callDepth_eq, hr, List.map_singleton, Playbook.callDepth_eq, hc]
  rfl

end Coffee

namespace Turn

open Machine

theorem coffee_frames_le_longest_chain : ∃ m,
    Visits (Coffee.env none ⟨"cli", "guest"⟩) Coffee.moreAsked (.resume (some (.str "yes"))) m ∧
    m.frames.length = 2 ∧ Coffee.book.callDepth Coffee.root = 1 ∧
    m.frames.length ≤ 1 + Coffee.book.callDepth Coffee.root := by
  have hp : (play (Coffee.env none ⟨"cli", "guest"⟩) 5 Coffee.moreAsked (.resume (some (.str "yes")))).map
      (fun r => (left r).frames.length) = some 2 := by cbv
  obtain ⟨r, hr, hl⟩ := Option.map_eq_some_iff.mp hp
  exact ⟨left r, .close hr, hl, Coffee.callDepth_root,
    (frames_le_longest_chain Coffee.moreAsked_occurs (.close hr)).2⟩

end Turn

end Dialogue
