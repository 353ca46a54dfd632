import Dialogue.Proofs.RunError
import Dialogue.Proofs.Run

/-! The shape of a call stack is checked once, before a turn does anything else. A stack that passes never
leaves the run without a frame or a frame without the call it waits for. -/

namespace Dialogue

variable {κ : Kinds}

inductive Misshapen (book : Playbook κ) (stack : CallStack) : Entry → Malformation → Prop
  -- The outermost frame without a stop point is to blame.
  | frames : stack.callers ≠ [] → Misshapen book stack .fresh (.notFresh stack.depth)
  | key {key : String} : stack.callers = [] → stack.innermost.stopAt = some key →
      Misshapen book stack .fresh (.freshAtKey key)
  | stop {input : Option Value} {outer inner : List Frame} {f : Frame} :
      stack.frames.reverse = outer ++ f :: inner → (∀ g ∈ outer, g.stopAt ≠ none) → f.stopAt = none →
      Misshapen book stack (.resume input) (.noStopPoint outer.length (book.script f.script).name)

namespace Turn

variable {book : Playbook κ} {stack : CallStack} {entry : Entry} {reason : Malformation}

lemma unstopped?_eq_some_iff {level : Nat} {frames : List Frame} :
    unstopped? book level frames = some reason ↔
      ∃ outer f inner, frames = outer ++ f :: inner ∧ (∀ g ∈ outer, g.stopAt ≠ none) ∧
        f.stopAt = none ∧ reason = .noStopPoint (level + outer.length) (book.script f.script).name := by
  induction frames generalizing level with
  | nil => simp [unstopped?]
  | cons f rest ih =>
    cases hf : f.stopAt with
    | none =>
      simp only [unstopped?, hf]
      constructor
      · intro h
        exact ⟨[], f, rest, rfl, by simp, hf, (Option.some.inj h).symm⟩
      · rintro ⟨_ | ⟨g, outer⟩, f', inner, he, ho, -, rfl⟩
        · obtain ⟨rfl, rfl⟩ := List.cons.inj he
          rfl
        -- No frame stands outside of the first one.
        · obtain ⟨rfl, -⟩ := List.cons.inj he
          exact absurd hf (ho f List.mem_cons_self)
    | some key =>
      simp only [unstopped?, hf, ih]
      constructor
      · rintro ⟨outer, f', inner, rfl, ho, hn, rfl⟩
        refine ⟨f :: outer, f', inner, rfl, List.forall_mem_cons.mpr ⟨by simp [hf], ho⟩, hn, ?_⟩
        simp only [List.length_cons, Nat.add_assoc, Nat.add_comm 1]
      · rintro ⟨_ | ⟨g, outer⟩, f', inner, he, ho, hn, rfl⟩
        · obtain ⟨rfl, -⟩ := List.cons.inj he
          simp [hf] at hn
        · obtain ⟨rfl, rfl⟩ := List.cons.inj he
          refine ⟨outer, f', inner, rfl, (List.forall_mem_cons.mp ho).2, hn, ?_⟩
          simp only [List.length_cons, Nat.add_assoc, Nat.add_comm 1]

lemma exists_unstopped (book : Playbook κ) (level : Nat) {frames : List Frame}
    (h : ∃ f ∈ frames, f.stopAt = none) : ∃ reason, unstopped? book level frames = some reason := by
  induction frames generalizing level with
  | nil => simp at h
  | cons f rest ih =>
    cases hf : f.stopAt with
    | none => simp [unstopped?, hf]
    | some key =>
      simp only [unstopped?, hf]
      exact ih (level + 1) (by simpa [hf] using h)

lemma malformation?_eq_some_iff :
    malformation? book stack entry = some reason ↔ Misshapen book stack entry reason := by
  cases entry with
  | fresh =>
    constructor
    · intro h
      simp only [malformation?] at h
      split at h
      · cases h
      · next hc hk =>
        cases h
        exact .key hc hk
      · next hc hk =>
        cases h
        refine .frames fun hn => ?_
        cases hs : stack.innermost.stopAt with
        | none => exact hc hn hs
        | some key => exact hk key hn hs
    · intro h
      cases h with
      | frames hc =>
        obtain ⟨c, rest, hc⟩ := List.exists_cons_of_ne_nil hc
        simp [malformation?, hc]
      | key hc hk => simp [malformation?, hc, hk]
  | resume input =>
    rw [malformation?, unstopped?_eq_some_iff]
    constructor
    · rintro ⟨outer, f, inner, he, ho, hn, rfl⟩
      rw [Nat.zero_add]
      exact .stop he ho hn
    · intro h
      cases h with
      | stop he ho hn => exact ⟨_, _, _, he, ho, hn, by rw [Nat.zero_add]⟩

lemma exists_misshapen_iff : (∃ reason, Misshapen book stack entry reason) ↔
    match entry with
    | .fresh => 1 < stack.depth ∨ stack.innermost.stopAt ≠ none
    | .resume _ => ∃ f ∈ stack.frames, f.stopAt = none := by
  cases entry with
  | fresh =>
    constructor
    · rintro ⟨reason, h⟩
      cases h with
      | frames hc => exact .inl (by simpa [CallStack.depth, CallStack.frames, List.length_pos_iff] using hc)
      | key hc hk => exact .inr (by simp [hk])
    · intro h
      by_cases hc : stack.callers = []
      · have hk : stack.innermost.stopAt ≠ none := by
          simpa [CallStack.depth, CallStack.frames, hc] using h
        obtain ⟨key, hk⟩ := Option.ne_none_iff_exists'.mp hk
        exact ⟨_, .key hc hk⟩
      · exact ⟨_, .frames hc⟩
  | resume input =>
    constructor
    · rintro ⟨reason, h⟩
      cases h with
      | @stop _ _ _ f he _ hn =>
        have hf : f ∈ stack.frames.reverse := by simp [he]
        exact ⟨f, List.mem_reverse.mp hf, hn⟩
    · rintro ⟨f, hf, hn⟩
      obtain ⟨reason, hr⟩ := exists_unstopped book 0 ⟨f, List.mem_reverse.mpr hf, hn⟩
      exact ⟨reason, malformation?_eq_some_iff.mp hr⟩

end Turn

namespace Machine

def Upright (m : Machine) : Prop :=
  ∃ f callers, m.frames = f :: callers ∧ ∀ c ∈ callers, c.stopAt ≠ none

variable {env : Env κ} {m m' : Machine}

lemma Upright.step_running (h : m.Upright) (hs : step env m = .ok .running m') : m'.Upright := by
  obtain ⟨f, callers, hf, hc⟩ := h
  obtain ⟨a, -, ha⟩ := step_eq_ok hf hs
  cases a with
  | go f' said queued =>
    cases ha
    exact ⟨f', callers, rfl, hc⟩
  | wait key => cases ha
  | enter key child =>
    cases ha
    exact ⟨child, _, rfl, List.forall_mem_cons.mpr ⟨by simp, hc⟩⟩
  | leave value =>
    cases callers with
    | nil => cases ha
    | cons c rest =>
      simp only [perform, handOver] at ha
      split at ha <;> cases ha
      exact ⟨_, rest, rfl, (List.forall_mem_cons.mp hc).2⟩

lemma Upright.step_waiting (h : m.Upright) (hs : step env m = .ok .waiting m') : m'.frames ≠ [] := by
  obtain ⟨f, callers, hf, -⟩ := h
  obtain ⟨a, -, ha⟩ := step_eq_ok hf hs
  cases a with
  | go f' said queued => cases ha
  | wait key =>
    cases ha
    exact List.cons_ne_nil _ _
  | enter key child => cases ha
  | leave value =>
    cases callers with
    | nil => cases ha
    | cons c rest =>
      simp only [perform, handOver] at ha
      split at ha <;> cases ha

lemma Upright.step_error {reason : Malformation} (h : m.Upright) :
    step env m ≠ .error (.malformed reason) m' := by
  obtain ⟨f, callers, hf, hc⟩ := h
  intro hs
  rcases step_eq_error hf hs with ⟨limit, -, he⟩ | ha | ⟨value, c, rest, rfl, hr⟩
  · cases he
  · cases Activation.action_eq_error ha with
    | hook he => cases he
  · obtain ⟨key, hk⟩ := Option.ne_none_iff_exists'.mp (hc c List.mem_cons_self)
    rcases Activation.receive_eq_error hk hr with he | he
    · rcases Script.calling_eq_error he with he | he <;> cases he
    · cases he

lemma Upright.steps {k : Nat} (h : m.Upright) (hs : Steps env k m m') : m'.Upright :=
  hs.invariant (fun _ _ hu hr => hu.step_running hr) h

end Machine

namespace Turn

variable {env : Env κ} {fuel : Nat} {stack : CallStack} {entry : Entry} {reason : Malformation}
  {m : Machine}

lemma enter_misshapen (h : Misshapen env.book stack entry reason) :
    enter env stack entry {} = .error (.malformed reason) {} := by
  simp only [enter, malformation?_eq_some_iff.mpr h]
  rfl

lemma stopAt_ne_of_shapely {input : Option Value}
    (h : ∀ reason, ¬ Misshapen env.book stack (.resume input) reason) :
    ∀ f ∈ stack.frames, f.stopAt ≠ none := by
  intro f hf hn
  have hm : ∃ reason, Misshapen env.book stack (.resume input) reason :=
    exists_misshapen_iff.mpr ⟨f, hf, hn⟩
  obtain ⟨reason, hr⟩ := hm
  exact h reason hr

lemma enter_fresh (h : ∀ reason, ¬ Misshapen env.book stack .fresh reason) :
    stack.callers = [] ∧ enter env stack .fresh {} = .ok () (entered stack) := by
  have hm : malformation? env.book stack .fresh = none :=
    Option.eq_none_iff_forall_ne_some.mpr fun reason hr => h reason (malformation?_eq_some_iff.mp hr)
  constructor
  · by_contra hc
    exact h _ (.frames hc)
  · simp only [enter, hm]
    rfl

lemma enter_shapely (h : ∀ reason, ¬ Misshapen env.book stack entry reason) :
    match enter env stack entry {} with
    | .ok _ m => m.Upright
    | .error e _ => ∀ reason, e ≠ .malformed reason := by
  cases entry with
  | fresh =>
    obtain ⟨hc, he⟩ := enter_fresh h
    rw [he]
    exact ⟨activate stack.innermost, [], by simp [entered, CallStack.frames, hc], by simp⟩
  | resume input =>
    have hs := stopAt_ne_of_shapely h
    obtain ⟨key, hk⟩ := Option.ne_none_iff_exists'.mp (hs stack.innermost List.mem_cons_self)
    cases ha : (env.book.script stack.innermost.script).asking key with
    | error e =>
      rw [enter_unasked input hs hk ha]
      rintro reason rfl
      rcases Script.asking_eq_error ha with he | he <;> cases he
    | ok target =>
      obtain ⟨index, store⟩ := target
      rw [enter_resume input hs hk (Script.asking_eq_ok_iff.mp ha),
        Machine.answer_eq env index store input rfl]
      split
      · next he =>
        split at he <;> cases he
        refine ⟨_, _, rfl, fun c hc => ?_⟩
        obtain ⟨f, hf, rfl⟩ := List.mem_map.mp hc
        exact hs f (List.mem_cons_of_mem _ hf)
      · next he =>
        split at he <;> cases he
        next hv =>
        rintro reason rfl
        cases Activation.stored_eq_error hv

lemma misshapen_of_enter (h : enter env stack entry {} = .error (.malformed reason) m) :
    Misshapen env.book stack entry reason ∧ m = {} := by
  by_cases hs : ∃ reason, Misshapen env.book stack entry reason
  · obtain ⟨reason', hr⟩ := hs
    cases (enter_misshapen hr).symm.trans h
    exact ⟨hr, rfl⟩
  · have he := enter_shapely (not_exists.mp hs)
    rw [h] at he
    exact absurd rfl (he reason)

lemma enter_upright (h : enter env stack entry {} = .ok () m) : m.Upright := by
  have hs : ∀ reason, ¬ Misshapen env.book stack entry reason := by
    intro reason hr
    cases (enter_misshapen hr).symm.trans h
  have he := enter_shapely hs
  rwa [h] at he

lemma play_malformed_iff : play env fuel stack entry = some (.error (.malformed reason) m) ↔
    Misshapen env.book stack entry reason ∧ m = {} := by
  constructor
  · intro h
    rcases play_eq_error h with he | ⟨m₀, he, hr | hh⟩
    · exact misshapen_of_enter he
    -- Behind the check there is always a frame, and a caller knows its call.
    · obtain ⟨k, m', -, hs, hlast, -⟩ := Machine.run_eq_some hr
      exact absurd hlast ((enter_upright he).steps hs).step_error
    · cases hh
  · rintro ⟨h, rfl⟩
    rw [play, enter_misshapen h]

lemma exists_play_malformed_iff :
    (∃ m, play env fuel stack entry = some (.error (.malformed reason) m)) ↔
      Misshapen env.book stack entry reason := by
  simp only [play_malformed_iff, exists_and_left, exists_eq, and_true]

lemma stack_ne_of_unfinished {o : Outcome} (h : play env fuel stack entry = some (.ok o m))
    (ho : o.finished = false) : o.stack ≠ none := by
  obtain ⟨m₀, m₁, status, yielded, he, hr, rfl, -⟩ := play_eq_ok h
  obtain ⟨k, m', -, hs, hlast, hne⟩ := Machine.run_eq_some hr
  cases status with
  | running => exact absurd rfl (hne m₁)
  | ended value => cases ho
  | waiting =>
    have hm := ((enter_upright he).steps hs).step_waiting hlast
    obtain ⟨f, callers, hf⟩ := List.exists_cons_of_ne_nil hm
    simp [outcome, Machine.atRest, hf, CallStack.ofFrames?]

theorem malformed_iff_misshapen (env : Env κ) (fuel : Nat) (stack : CallStack) (entry : Entry) :
    (∀ reason, (∃ m, play env fuel stack entry = some (.error (.malformed reason) m)) ↔
      Misshapen env.book stack entry reason) ∧
    ((∃ reason m, play env fuel stack entry = some (.error (.malformed reason) m)) ↔
      match entry with
      | .fresh => 1 < stack.depth ∨ stack.innermost.stopAt ≠ none
      | .resume _ => ∃ f ∈ stack.frames, f.stopAt = none) ∧
    (∀ reason m, play env fuel stack entry = some (.error (.malformed reason) m) →
      m.journal = #[] ∧ m.steps = 0) ∧
    (∀ m₀ m k, enter env stack entry {} = .ok () m₀ → Machine.Steps env k m₀ m → m.frames ≠ []) ∧
    ∀ o m, play env fuel stack entry = some (.ok o m) → o.finished = false → o.stack ≠ none := by
  refine ⟨fun reason => exists_play_malformed_iff, ?_, ?_, ?_, ?_⟩
  · simp only [exists_play_malformed_iff]
    exact exists_misshapen_iff
  · intro reason m h
    obtain ⟨-, rfl⟩ := play_malformed_iff.mp h
    exact ⟨rfl, rfl⟩
  · intro m₀ m k he hs
    obtain ⟨f, callers, hf, -⟩ := (enter_upright he).steps hs
    simp [hf]
  · intro o m hp ho
    exact stack_ne_of_unfinished hp ho

end Turn

end Dialogue
