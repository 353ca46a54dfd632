import Dialogue.Proofs.Coffee.StateFile

/-! A conversation that is kept in a file between its turns is the conversation that is kept in memory, call
after call and one conversation after the other. -/

namespace Dialogue.Coffee

open Value

section Serving

inductive Serving : CallStack → Prop
  | choosing {v w : Value} : v.Fit 124 → w.Fit 124 →
      Serving ⟨⟨0, v, some "drink"⟩, [⟨1, w, some "choose"⟩]⟩
  | offering {w : Value} : w.Fit 124 → Serving ⟨⟨1, w, some "more"⟩, []⟩

inductive Served : Outcome → Prop
  | ended {o : Outcome} : o.finished = true → o.stack = none → Served o
  | waits {o : Outcome} {stack : CallStack} : o.finished = false → o.stack = some stack → Serving stack →
      Served o

variable {stack : CallStack}

lemma Serving.fit (h : Serving stack) : ∀ f ∈ stack.frames, f.vars.Fit 124 := by
  cases h with
  | choosing hv hw => simp [CallStack.frames, hv, hw]
  | offering hw => simp [CallStack.frames, hw]

lemma Serving.restore (h : Serving stack) :
    CallStack.restore registry (stack.snapshots book) = .ok stack := by
  have h₀ : registry.Binds book 0 := by rw [registry_eq]; rfl
  have h₁ : registry.Binds book 1 := by rw [registry_eq]; rfl
  apply CallStack.restore_snapshots
  cases h with
  | choosing => simp [CallStack.frames, h₀, h₁]
  | offering => simp [CallStack.frames, h₁]

lemma fresh_served (items : List String) (thread : Thread) :
    ∃ o, Served o ∧ Brings items thread (.root book root none) .fresh o :=
  ⟨_, .waits rfl rfl (.choosing empty_fit initVars_fit), opening_brings items thread⟩

lemma Serving.served (h : Serving stack) (items : List String) (thread : Thread) (input : Option Value) :
    ∃ o, Served o ∧ Brings items thread stack (.resume input) o := by
  cases h with
  | @choosing v w hv hw =>
    cases hs : isServed items (view thread 0 (storeChoice (view thread 0 v, input))) with
    | true =>
      exact ⟨_, .waits rfl rfl (.offering (storeDrink_fit hw chosen_drink_fit)),
        served_brings items thread rfl rfl hs⟩
    | false =>
      exact ⟨_, .waits rfl rfl (.choosing (storeChoice_fit hv) hw), unserved_brings items thread rfl hs⟩
  | @offering w hw =>
    cases hm : wantsMore (view thread 1 (storeMore (view thread 1 w, input))) with
    | true =>
      exact ⟨_, .waits rfl rfl (.choosing empty_fit (storeMore_fit hw)), more_brings items thread rfl hm⟩
    | false => exact ⟨_, .ended rfl rfl, enough_brings items thread rfl hm⟩

end Serving

structure Call where
  limit : Option Nat
  input : Option String
  user : String

structure Session where
  thread : Thread
  stack : CallStack

namespace Session

def conversation (s : Session) : Conversation := ⟨s.thread, s.stack.snapshots book⟩

def opening (call : Call) : Option Session → Thread × CallStack × Entry
  | none => (⟨"cli", call.user⟩, .root book root none, .fresh)
  | some s => (s.thread, s.stack, .resume (call.input.map ofInput))

def shown (session : Option Session) (call : Call) : Thread × Option (Except RunError Outcome) :=
  let (thread, stack, entry) := opening call session
  (thread, (Turn.play (env none thread) Turn.ample stack entry).map Turn.shown)

def next : Thread × Option (Except RunError Outcome) → Option Session
  | (thread, some (.ok o)) => o.stack.map fun stack => ⟨thread, stack⟩
  | _ => none

def series : Option Session → List Call → List (Thread × Option (Except RunError Outcome))
  | _, [] => []
  | session, call :: calls => shown session call :: series (next (shown session call)) calls

end Session

def fileSeries (path : String) : Disk → List Call → List (EStateM.Result Failure Disk (List String))
  | _, [] => []
  | disk, call :: calls =>
    match turn path call.limit call.input call.user false disk with
    | .ok lines disk => .ok lines disk :: fileSeries path disk calls
    | .error e disk => .error e disk :: fileSeries path disk calls

def Agrees (path : String) (after : EStateM.Result Failure Disk (List String))
    (shown : Thread × Option (Except RunError Outcome)) : Prop :=
  -- Texts are shown as they are, other values as they are written.
  ∃ o disk, shown.2 = some (.ok o) ∧
    after = .ok (o.contents.toList.map (fun v => v.str?.getD v.compact) ++
      if o.finished then o.returned.toList.map fun v => "(finished: " ++ v.compact ++ ")" else []) disk ∧
    (disk.look path = none ↔ o.finished = true) ∧
    load path disk = .ok (o.stack.map fun stack => ⟨shown.1, stack.snapshots book⟩) disk

structure Synced (path : String) (disk : Disk) (session : Option Session) : Prop where
  reached : disk.place? path ≠ none
  loaded : load path disk = .ok (session.map Session.conversation) disk
  serving : ∀ s ∈ session, Serving s.stack

section Series

variable {path : String} {disk : Disk} {session : Option Session}

lemma Synced.opens (h : Synced path disk session) (call : Call) :
    let (thread, stack, entry) := Session.opening call session
    Opens call.input call.user (session.map Session.conversation) thread stack entry ∧
      ∃ o, Served o ∧ Brings defaultMenu thread stack entry o := by
  cases session with
  | none => exact ⟨.fresh, fresh_served _ _⟩
  | some s =>
    have hs := h.serving s rfl
    exact ⟨.resumed hs.restore, hs.served _ _ _⟩

lemma reply_lines {thread : Thread} {o : Outcome} (h : o.finished = o.stack.isNone) :
    (reply thread o).lines = o.contents.toList.map (fun v => v.str?.getD v.compact) ++
      if o.finished then o.returned.toList.map fun v => "(finished: " ++ v.compact ++ ")" else [] := by
  rw [h]
  cases hs : o.stack with
  | none =>
    simp only [reply, hs, Option.isNone_none, if_true]
    rfl
  | some stack => simp [reply, hs, Value.plain]

lemma Session.shown_eq {call : Call} {thread : Thread} {stack : CallStack} {entry : Entry} {o : Outcome}
    (ho : Session.opening call session = (thread, stack, entry)) (hb : Brings defaultMenu thread stack entry o) :
    Session.shown session call = (thread, some (.ok o)) := by
  rw [Session.shown, ho]
  exact congrArg (Prod.mk thread) (hb.shown (by simp))

lemma Synced.step (h : Synced path disk session) (call : Call) (hl : ∀ n ∈ call.limit, 5 ≤ n) :
    ∃ lines disk', turn path call.limit call.input call.user false disk = .ok lines disk' ∧
      Agrees path (.ok lines disk') (Session.shown session call) ∧
      Synced path disk' (Session.next (Session.shown session call)) := by
  rcases hop : Session.opening call session with ⟨thread, stack, entry⟩
  have hopens := h.opens call
  rw [hop] at hopens
  obtain ⟨ho, o, hserved, hb⟩ := hopens
  -- One run is behind both: a limit of five or more does not cut it short, so it shows what it shows without.
  have hm : Session.shown session call = (thread, some (.ok o)) := Session.shown_eq hop hb
  have hc := ho.converse_eq.trans (play_of_shown (hb.shown hl))
  rw [hm]
  cases hserved with
  | ended hf hs =>
    obtain ⟨disk', ht, hgone, hp⟩ := turn_of_finished h.loaded hc hs
    have hload : load path disk' = .ok none disk' := load_absent hgone
    refine ⟨_, disk', ht, ⟨o, disk', rfl, ?_, by simp [hgone, hf], by simpa [hs] using hload⟩, ?_⟩
    · rw [reply_lines (by simp [hf, hs])]
    · exact ⟨by rw [hp]; exact h.reached, by simpa [Session.next, hs] using hload, by simp [Session.next, hs]⟩
  | @waits stack' hf hs hserving =>
    rcases turn_of_unfinished h.loaded hc hs with ⟨hn, -⟩ | ⟨disk', ht, hfile, hp⟩
    · exact absurd hn h.reached
    · have hload := load_file hfile (snapshots_fit hserving.fit)
      refine ⟨_, disk', ht, ⟨o, disk', rfl, ?_, by simp [hfile, hf], by simpa [hs] using hload⟩, ?_⟩
      · rw [reply_lines (by simp [hf, hs])]
      · exact ⟨by rw [hp]; exact h.reached, by simpa [Session.next, Session.conversation, hs] using hload,
          by simpa [Session.next, hs] using hserving⟩

lemma Synced.agrees (h : Synced path disk session) (calls : List Call)
    (hl : ∀ call ∈ calls, ∀ n ∈ call.limit, 5 ≤ n) :
    List.Forall₂ (Agrees path) (fileSeries path disk calls) (Session.series session calls) := by
  induction calls generalizing disk session with
  | nil => exact .nil
  | cons call calls ih =>
    obtain ⟨hc, hl⟩ := List.forall_mem_cons.mp hl
    obtain ⟨lines, disk', ht, ha, hs⟩ := h.step call hc
    rw [fileSeries, ht]
    exact .cons ha (ih hs hl)

theorem fileSeries_agrees {disk : Disk} {path : String} {place : Place} (calls : List Call)
    (hp : disk.place? path = some place) (hn : disk.node? place = none)
    (hl : ∀ call ∈ calls, ∀ n ∈ call.limit, 5 ≤ n) :
    List.Forall₂ (Agrees path) (fileSeries path disk calls) (Session.series none calls) := by
  have hlook : disk.look path = none := by rw [Disk.look, hp, Option.bind_some, hn]
  have hs : Synced path disk none := ⟨by simp [hp], load_absent hlook, by simp⟩
  exact hs.agrees calls hl

def orderCalls : List Call := [⟨none, none, "ann"⟩, ⟨some 5, some "tea", "bob"⟩, ⟨some 7, some "no", "bob"⟩,
  ⟨none, some "tea", "bob"⟩]

def opened : Outcome := ⟨false, none, none,
  #[.str "Welcome to parley coffee!", .str "We have: latte, mocha, tea. What would you like?"],
  some ⟨⟨0, .obj [], some "drink"⟩, [⟨1, .obj [("orders", .arr [])], some "choose"⟩]⟩⟩

def offered : Outcome := ⟨false, none, some (.obj [("drinks", .arr [.str "tea"]), ("ordered", .int 1)]),
  #[.str "One tea coming up! Anything else? (yes/no)"],
  some ⟨⟨1, .obj [("last", .str "tea"), ("orders", .arr [.str "tea"])], some "more"⟩, []⟩⟩

def thanked : Outcome := ⟨true, some (.obj [("orders", .arr [.str "tea"])]), none,
  #[.str "Thanks! Your order: tea."], none⟩

lemma opened_brings (uid : String) : Brings defaultMenu ⟨"cli", uid⟩ (.root book root none) .fresh opened := by
  have h := opening_brings defaultMenu ⟨"cli", uid⟩
  have hw : welcome (view ⟨"cli", uid⟩ 1 ((book.script root).initVars none)) =
      .str "Welcome to parley coffee!" := by cbv
  have hg : greet defaultMenu (view ⟨"cli", uid⟩ 0 (.obj [])) =
      .str "We have: latte, mocha, tea. What would you like?" := by cbv
  rwa [hw, hg] at h

lemma offered_brings (uid : String) : Brings defaultMenu ⟨"cli", uid⟩
    ⟨⟨0, .obj [], some "drink"⟩, [⟨1, .obj [("orders", .arr [])], some "choose"⟩]⟩
    (.resume (some (ofInput "tea"))) offered := by
  let v : Value := .obj [("choice", .str "tea")]
  let w : Value := .obj [("last", .str "tea"), ("orders", .arr [.str "tea"])]
  have hv : v = storeChoice (view ⟨"cli", uid⟩ 0 (.obj []), some (ofInput "tea")) := by cbv
  have hw : w = storeDrink (view ⟨"cli", uid⟩ 1 (.obj [("orders", .arr [])]),
      some (chosen (view ⟨"cli", uid⟩ 0 v))) := by cbv
  have hs : isServed defaultMenu (view ⟨"cli", uid⟩ 0 v) = true := by cbv
  have ho : offerMore (view ⟨"cli", uid⟩ 1 w) = .str "One tea coming up! Anything else? (yes/no)" := by cbv
  have h := served_brings defaultMenu ⟨"cli", uid⟩ hv hw hs
  rwa [ho] at h

lemma thanked_brings (uid : String) : Brings defaultMenu ⟨"cli", uid⟩
    ⟨⟨1, .obj [("last", .str "tea"), ("orders", .arr [.str "tea"])], some "more"⟩, []⟩
    (.resume (some (ofInput "no"))) thanked := by
  let w : Value := .obj [("last", .str "tea"), ("more", .bool false), ("orders", .arr [.str "tea"])]
  have hw : w = storeMore (view ⟨"cli", uid⟩ 1 (.obj [("last", .str "tea"), ("orders", .arr [.str "tea"])]),
      some (ofInput "no")) := by cbv
  have hm : wantsMore (view ⟨"cli", uid⟩ 1 w) = false := by cbv
  have ht : thank (view ⟨"cli", uid⟩ 1 w) = .str "Thanks! Your order: tea." := by cbv
  have h := enough_brings defaultMenu ⟨"cli", uid⟩ hw hm
  rwa [ht] at h

lemma orderCalls_series : Session.series none orderCalls = [(⟨"cli", "ann"⟩, some (.ok opened)),
    (⟨"cli", "ann"⟩, some (.ok offered)), (⟨"cli", "ann"⟩, some (.ok thanked)),
    (⟨"cli", "bob"⟩, some (.ok opened))] := by
  have h₁ : Session.shown none ⟨none, none, "ann"⟩ = (⟨"cli", "ann"⟩, some (.ok opened)) :=
    Session.shown_eq rfl (opened_brings "ann")
  have h₂ : Session.shown (Session.next (⟨"cli", "ann"⟩, some (.ok opened))) ⟨some 5, some "tea", "bob"⟩ =
      (⟨"cli", "ann"⟩, some (.ok offered)) :=
    Session.shown_eq rfl (offered_brings "ann")
  have h₃ : Session.shown (Session.next (⟨"cli", "ann"⟩, some (.ok offered))) ⟨some 7, some "no", "bob"⟩ =
      (⟨"cli", "ann"⟩, some (.ok thanked)) :=
    Session.shown_eq rfl (thanked_brings "ann")
  have h₄ : Session.shown (Session.next (⟨"cli", "ann"⟩, some (.ok thanked))) ⟨none, some "tea", "bob"⟩ =
      (⟨"cli", "bob"⟩, some (.ok opened)) :=
    Session.shown_eq rfl (opened_brings "bob")
  simp only [orderCalls, Session.series, h₁, h₂, h₃, h₄]

theorem order_fileSeries_agrees : ∃ d₁ d₂ d₃ d₄,
    fileSeries "state.json" {} orderCalls = [
      .ok ["Welcome to parley coffee!", "We have: latte, mocha, tea. What would you like?"] d₁,
      .ok ["One tea coming up! Anything else? (yes/no)"] d₂,
      .ok ["Thanks! Your order: tea.", "(finished: \x7b\"orders\":[\"tea\"]\x7d)"] d₃,
      .ok ["Welcome to parley coffee!", "We have: latte, mocha, tea. What would you like?"] d₄] ∧
    load "state.json" d₂ = .ok (some ⟨⟨"cli", "ann"⟩,
      [⟨"take_order", .obj [("last", .str "tea"), ("orders", .arr [.str "tea"])], some "more"⟩]⟩) d₂ ∧
    d₃.look "state.json" = none := by
  have hp : Disk.place? {} "state.json" = some ["state.json"] := by cbv
  have hn : Disk.node? {} ["state.json"] = none := by cbv
  have h := fileSeries_agrees orderCalls hp hn (by simp [orderCalls])
  rw [orderCalls_series] at h
  generalize fileSeries "state.json" {} orderCalls = afters at h
  obtain ⟨_, _, ⟨_, d₁, ⟨⟩, rfl, -⟩, t₁, rfl⟩ := List.forall₂_cons_right_iff.mp h
  obtain ⟨_, _, ⟨_, d₂, ⟨⟩, rfl, -, hload⟩, t₂, rfl⟩ := List.forall₂_cons_right_iff.mp t₁
  obtain ⟨_, _, ⟨_, d₃, ⟨⟩, rfl, hgone, -⟩, t₃, rfl⟩ := List.forall₂_cons_right_iff.mp t₂
  obtain ⟨_, _, ⟨_, d₄, ⟨⟩, rfl, -⟩, t₄, rfl⟩ := List.forall₂_cons_right_iff.mp t₃
  cases List.forall₂_nil_right_iff.mp t₄
  have hc : (Value.obj [("orders", .arr [.str "tea"])]).compact = "\x7b\"orders\":[\"tea\"]\x7d" := by cbv
  refine ⟨d₁, d₂, d₃, d₄, ?_, hload, hgone.mpr rfl⟩
  simp [opened, offered, thanked, Value.str?, hc]

end Series

end Dialogue.Coffee
