import Dialogue.Proofs.Entry
import Dialogue.Proofs.Trail

/-! A limit on the steps of a turn only cuts it off: either the turn fails at the limit, or it goes as it goes
without one. -/

namespace Dialogue

variable {κ : Kinds}

def Env.withLimit (env : Env κ) (limit : Option Nat) : Env κ := { env with limit }

namespace Machine

variable {env : Env κ} {k j n : Nat} {m m' : Machine}

lemma Steps.take (h : Steps env k m m') (hj : j ≤ k) : ∃ m₁, Steps env j m m₁ := by
  induction h generalizing j with
  | zero m =>
    obtain rfl : j = 0 := by omega
    exact ⟨m, .zero m⟩
  | succ hs _ ih =>
    cases j with
    | zero => exact ⟨_, .zero _⟩
    | succ j =>
      obtain ⟨m₁, h₁⟩ := ih (Nat.le_of_succ_le_succ hj)
      exact ⟨m₁, .succ hs h₁⟩

lemma not_exhausted_none : ¬ Exhausted (env.withLimit none) m := by
  rintro ⟨limit, hl, -⟩
  cases hl

lemma not_exhausted_of_lt (h : m.steps < n) : ¬ Exhausted (env.withLimit (some n)) m := by
  rintro ⟨limit, hl, hs⟩
  obtain rfl : n = limit := Option.some.inj hl
  omega

lemma step_withLimit (h : m.steps < n) :
    step (env.withLimit (some n)) m = step (env.withLimit none) m := by
  rw [step, step, bind_ok (count_eq (not_exhausted_of_lt h)), bind_ok (count_eq not_exhausted_none)]
  rfl

lemma Steps.withLimit (h : Steps (env.withLimit none) k m m') (hk : m.steps + k ≤ n) :
    Steps (env.withLimit (some n)) k m m' := by
  induction h with
  | zero m => exact .zero m
  | @succ k m₁ m₂ m₃ hs _ ih =>
    obtain ⟨f, callers, hf⟩ := frames_of_running hs
    have hn : m₂.steps = m₁.steps + 1 := (step_adds hf hs).2
    have hlt : m₁.steps < n := by omega
    exact .succ ((step_withLimit hlt).trans hs) (ih (by omega))

lemma Steps.run_cut {fuel : Nat} (h : Steps (env.withLimit none) n m m') (hm : m.steps = 0)
    (hn : n < fuel) : run (env.withLimit (some n)) fuel m = some (.error (.stepLimit n) m') := by
  have hs : m'.steps = m.steps + n := h.adds.2
  have hl : step (env.withLimit (some n)) m' = .error (.stepLimit n) m' :=
    step_exhausted _ rfl (by omega)
  exact (h.withLimit (by omega)).run_of_last hn hl (by simp)

lemma Steps.run_within {fuel : Nat} {r : EStateM.Result RunError Machine Status} {limit : Option Nat}
    (h : Steps (env.withLimit none) k m m') (hr : step (env.withLimit none) m' = r)
    (hne : ∀ m₁, r ≠ .ok .running m₁) (hm : m.steps = 0) (hl : ∀ n ∈ limit, k < n) (hk : k < fuel) :
    run (env.withLimit limit) fuel m = some r := by
  cases limit with
  | none => exact h.run_of_last hk hr hne
  | some n =>
    have hn : k < n := hl n rfl
    have hs : m'.steps = m.steps + k := h.adds.2
    have hlt : m'.steps < n := by omega
    exact (h.withLimit (by omega)).run_of_last hk ((step_withLimit hlt).trans hr) hne

lemma Steps.trail_last (h : Steps (env.withLimit none) k m m') (hf : m'.frames ≠ [])
    (hs : ∀ m₁, step (env.withLimit none) m' ≠ .ok .running m₁) (hk : k < n) :
    (trail (env.withLimit none) n m).length = k + 1 := by
  obtain ⟨f, callers, hf⟩ := List.exists_cons_of_ne_nil hf
  obtain ⟨j, rfl⟩ := Nat.exists_eq_add_of_lt hk
  have ht : trail (env.withLimit none) (j + 1) m' = [⟨f, callers⟩] :=
    Machine.trail_last not_exhausted_none hf hs
  rw [Nat.add_assoc, h.trail_add, ht, List.length_append, h.trail_length]
  rfl

end Machine

namespace Turn

variable (env : Env κ) (stack : CallStack) (entry : Entry)

def Settles (steps : Nat) (r : EStateM.Result RunError Machine Outcome) : Prop :=
  ∀ fuel, steps ≤ fuel → play env fuel stack entry = some r

def CutAt (n : Nat) : Prop :=
  ∃ m, Settles (env.withLimit (some n)) stack entry (n + 1) (.error (.stepLimit n) m)

variable {env stack entry} {m m' : Machine} {k n : Nat} {r : EStateM.Result RunError Machine Status}

lemma enter_withLimit (limit : Option Nat) :
    enter (env.withLimit limit) stack entry m = enter env stack entry m := by
  cases entry <;> rfl

lemma play_withLimit (limit : Option Nat) (fuel : Nat) (he : enter env stack entry {} = .ok () m) :
    play (env.withLimit limit) fuel stack entry = (Machine.run (env.withLimit limit) fuel m).map close := by
  rw [play_eq, enter_withLimit, he]

lemma cutAt_of_steps (he : enter env stack entry {} = .ok () m)
    (h : Machine.Steps (env.withLimit none) n m m') : CutAt env stack entry n := by
  refine ⟨m', fun fuel hn => ?_⟩
  rw [play_withLimit _ fuel he, h.run_cut (starts_of_enter he).blank.1 hn]
  rfl

lemma settles_of_steps {limit : Option Nat} (he : enter env stack entry {} = .ok () m)
    (h : Machine.Steps (env.withLimit none) k m m')
    (hr : Machine.step (env.withLimit none) m' = r) (hne : ∀ m₁, r ≠ .ok .running m₁)
    (hl : ∀ n ∈ limit, k < n) : Settles (env.withLimit limit) stack entry (k + 1) (close r) := by
  intro fuel hk
  rw [play_withLimit _ fuel he, h.run_within hr hne (starts_of_enter he).blank.1 hl hk]
  rfl

lemma stops_or_endless (env : Env κ) (m : Machine) :
    (∃ k m' r, Machine.Steps env k m m' ∧ Machine.step env m' = r ∧ ∀ m₁, r ≠ .ok .running m₁) ∨
    ∀ n, ∃ m', Machine.Steps env n m m' := by
  by_cases h : ∃ n r, Machine.run env n m = some r
  · obtain ⟨n, r, hr⟩ := h
    obtain ⟨k, m', -, hs, hlast, hne⟩ := Machine.run_eq_some hr
    exact .inl ⟨k, m', r, hs, hlast, hne⟩
  · right
    intro n
    apply Machine.run_eq_none_iff.mp
    exact Option.eq_none_iff_forall_ne_some.mpr fun r hr => h ⟨n, r, hr⟩

theorem limit_only_cuts (env : Env κ) (stack : CallStack) (entry : Entry) :
    ((∀ fuel, play (env.withLimit none) fuel stack entry = none) ∧ ∀ n, CutAt env stack entry n) ∨
    ∃ k r,
      (∀ n, n < k → CutAt env stack entry n) ∧
      (∀ limit, (∀ n ∈ limit, k ≤ n) → Settles (env.withLimit limit) stack entry k r) ∧
      (k = 0 ↔ ∃ e, Barred env stack entry e) ∧
      ∀ m, enter env stack entry {} = .ok () m → ∀ fuel, k ≤ fuel →
        (Machine.trail (env.withLimit none) fuel m).length = k := by
  cases he : enter env stack entry {} with
  | error e m =>
    right
    refine ⟨0, .error e m, by omega, fun limit _ fuel _ => ?_, ?_, by simp⟩
    · rw [play_eq, enter_withLimit, he]
    · simp only [exists_barred_iff, true_iff]
      exact ⟨e, m, he⟩
  | ok _ m =>
    rcases stops_or_endless (env.withLimit none) m with ⟨j, m', r, hs, hr, hne⟩ | hs
    · right
      -- The step at which the run stops is counted as well.
      refine ⟨j + 1, close r, fun n hn => ?_, fun limit hl => settles_of_steps he hs hr hne hl, ?_, ?_⟩
      · obtain ⟨m₁, h₁⟩ := hs.take (Nat.le_of_lt_succ hn)
        exact cutAt_of_steps he h₁
      · simp [exists_barred_iff, he]
      · intro m₀ h₀ fuel hk
        cases h₀
        have hf : m'.frames ≠ [] := by
          obtain ⟨f, callers, hf, -⟩ := (enter_upright he).steps hs
          simp [hf]
        exact hs.trail_last hf (fun m₁ h₁ => hne m₁ (hr.symm.trans h₁)) hk
    · left
      refine ⟨fun fuel => ?_, fun n => ?_⟩
      · rw [play_withLimit none fuel he, Machine.run_eq_none_iff.mpr (hs fuel)]
        rfl
      · obtain ⟨m', hn⟩ := hs n
        exact cutAt_of_steps he hn

end Turn

end Dialogue
