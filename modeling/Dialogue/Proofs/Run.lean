import Dialogue.Machine
import Mathlib

/-! Runs as sequences of steps. -/

namespace Dialogue.Machine

variable {κ : Kinds}

variable (env : Env κ)

inductive Steps : Nat → Machine → Machine → Prop
  | zero (m : Machine) : Steps 0 m m
  | succ {n : Nat} {m₁ m₂ m₃ : Machine} : step env m₁ = .ok .running m₂ → Steps n m₂ m₃ →
      Steps (n + 1) m₁ m₃

variable {env} {k n : Nat} {m m' : Machine}

lemma Steps.invariant {I : Machine → Prop}
    (hs : ∀ m m', I m → step env m = .ok .running m' → I m') (h : Steps env n m m') (hi : I m) :
    I m' := by
  induction h with
  | zero => exact hi
  | succ he _ ih => exact ih (hs _ _ hi he)

lemma run_succ_of_running (h : step env m = .ok .running m') : run env (n + 1) m = run env n m' := by
  simp [run, h]

lemma run_eq_some {r : EStateM.Result RunError Machine Status} (h : run env n m = some r) :
    ∃ k m', k < n ∧ Steps env k m m' ∧ step env m' = r ∧ ∀ m'', r ≠ .ok .running m'' := by
  induction n generalizing m with
  | zero => simp [run] at h
  | succ n ih =>
    by_cases hs : ∃ m₁, step env m = .ok .running m₁
    · obtain ⟨m₁, hs⟩ := hs
      rw [run_succ_of_running hs] at h
      obtain ⟨k, m', hk, hsteps, hlast⟩ := ih h
      exact ⟨k + 1, m', by omega, .succ hs hsteps, hlast⟩
    · have hr : step env m = r := by
        rw [run] at h
        split at h
        · next m₁ he => exact absurd ⟨m₁, he⟩ hs
        · exact Option.some.inj h
      refine ⟨0, m, by omega, .zero m, hr, ?_⟩
      rintro m'' rfl
      exact hs ⟨m'', hr⟩

lemma Steps.run_add (h : Steps env k m m') : run env (k + n) m = run env n m' := by
  induction h with
  | zero => simp
  | @succ k m₁ m₂ m₃ he _ ih =>
    rw [Nat.add_right_comm, run_succ_of_running he, ih]

lemma run_eq_none_iff : run env n m = none ↔ ∃ m', Steps env n m m' := by
  constructor
  · intro h
    induction n generalizing m with
    | zero => exact ⟨m, .zero m⟩
    | succ n ih =>
      rw [run] at h
      split at h
      · next m₁ he =>
        obtain ⟨m', hs⟩ := ih h
        exact ⟨m', .succ he hs⟩
      · simp at h
  · rintro ⟨m', hs⟩
    exact hs.run_add (n := 0)

lemma Steps.run_of_last {r : EStateM.Result RunError Machine Status} (h : Steps env k m m')
    (hk : k < n) (hr : step env m' = r) (hne : ∀ m'', r ≠ .ok .running m'') :
    run env n m = some r := by
  obtain ⟨j, rfl⟩ := Nat.exists_eq_add_of_lt hk
  rw [Nat.add_assoc, h.run_add, run, hr]
  split
  · next m'' => exact absurd rfl (hne m'')
  · rfl

end Dialogue.Machine
