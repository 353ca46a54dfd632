import Dialogue.Proofs.Forward

/-! What a limit on steps counts: the commands that a turn dispatches, and beside them the frames that run off the
end of their script, where nothing is dispatched. -/

namespace Dialogue

namespace Turn

variable {κ : Kinds}

open Machine

variable (env : Env κ) (fuel : Nat) (stack : CallStack) (entry : Entry)

def moments : List Moment :=
  match enter env stack entry {} with
  | .ok _ m => trail env fuel m
  | .error _ _ => []

def dispatched : List (Command κ) := (moments env fuel stack entry).filterMap (Moment.command? env)

def lapses : Nat := (moments env fuel stack entry).countP fun t => (t.command? env).isNone

variable {env fuel stack entry} {r : EStateM.Result RunError Machine Outcome} {n : Nat}

lemma moments_length : (moments env fuel stack entry).length =
    (dispatched env fuel stack entry).length + lapses env fuel stack entry := by
  rw [dispatched, List.length_filterMap_eq_countP, lapses,
    List.length_eq_countP_add_countP fun t => (t.command? env).isSome]
  simp only [Bool.not_eq_true, Option.isSome_eq_false_iff, Bool.decide_eq_true]

lemma settles_or_cut (h : play (env.withLimit none) fuel stack entry = some r) (n : Nat) :
    ((moments (env.withLimit none) fuel stack entry).length ≤ n →
      Settles (env.withLimit (some n)) stack entry (moments (env.withLimit none) fuel stack entry).length r) ∧
    (n < (moments (env.withLimit none) fuel stack entry).length → CutAt env stack entry n) := by
  rw [moments]
  rw [play_eq] at h
  rw [enter_withLimit] at h ⊢
  cases he : enter env stack entry {} with
  | error e m =>
    rw [he] at h
    cases h
    refine ⟨fun _ fuel _ => ?_, fun hn => absurd hn (Nat.not_lt_zero n)⟩
    rw [play_eq, enter_withLimit, he]
  | ok _ m =>
    rw [he] at h
    obtain ⟨r', hr, rfl⟩ := Option.map_eq_some_iff.mp h
    obtain ⟨k, m', hk, hs, hlast, hne⟩ := run_eq_some hr
    have hf : m'.frames ≠ [] := by
      obtain ⟨f, callers, hf, -⟩ := (enter_upright he).steps hs
      simp [hf]
    simp only [hs.trail_last hf (fun m₁ h₁ => hne m₁ (hlast.symm.trans h₁)) hk]
    constructor
    · intro hn
      apply settles_of_steps he hs hlast hne
      rintro _ ⟨⟩
      exact hn
    · intro hn
      obtain ⟨m₁, h₁⟩ := hs.take (Nat.le_of_lt_succ hn)
      exact cutAt_of_steps he h₁

lemma CutAt.not_settles (hc : CutAt env stack entry n)
    (h : play (env.withLimit none) fuel stack entry = some r) (steps : Nat) :
    ¬ Settles (env.withLimit (some n)) stack entry steps r := by
  intro hs
  obtain ⟨m, hm⟩ := hc
  have hr := (hs (max steps (n + 1)) (Nat.le_max_left _ _)).symm.trans (hm _ (Nat.le_max_right _ _))
  cases hr
  cases limit_of_play h

theorem limit_counts_lapses (env : Env κ) (stack : CallStack) (entry : Entry) {commands ends : Nat}
    (h : play (env.withLimit none) fuel stack entry = some r)
    (hc : (dispatched (env.withLimit none) fuel stack entry).length = commands)
    (he : lapses (env.withLimit none) fuel stack entry = ends) :
    (∀ n, commands + ends ≤ n → Settles (env.withLimit (some n)) stack entry (commands + ends) r) ∧
    (∀ n, n < commands + ends → CutAt env stack entry n) ∧
    ((∀ n, commands ≤ n → ∃ steps, Settles (env.withLimit (some n)) stack entry steps r) ↔ ends = 0) := by
  have hk : ∀ n, (commands + ends ≤ n → Settles (env.withLimit (some n)) stack entry (commands + ends) r) ∧
      (n < commands + ends → CutAt env stack entry n) := by
    rw [← hc, ← he, ← moments_length]
    exact settles_or_cut h
  refine ⟨fun n => (hk n).1, fun n => (hk n).2, ?_⟩
  constructor
  · intro hd
    obtain ⟨steps, hs⟩ := hd commands (Nat.le_refl _)
    by_contra hne
    have hcut : CutAt env stack entry commands := (hk commands).2 (by omega)
    exact hcut.not_settles h steps hs
  · intro h0 n hn
    exact ⟨_, (hk n).1 (by omega)⟩

lemma errand_plays : ∃ r, play (errand.alone none) 5 (CallStack.root errand 1 none) .fresh = some r := by
  apply Option.isSome_iff_exists.mp
  cbv

lemma errand_dispatched : (dispatched (errand.alone none) 5 (CallStack.root errand 1 none) .fresh).length = 3 := by
  cbv

lemma errand_lapses : lapses (errand.alone none) 5 (CallStack.root errand 1 none) .fresh = 2 := by
  cbv

theorem errand_limit_counts_lapses : ∃ r,
    play (errand.alone none) 5 (CallStack.root errand 1 none) .fresh = some r ∧
    Settles (errand.alone (some 5)) (CallStack.root errand 1 none) .fresh 5 r ∧
    CutAt (errand.alone none) (CallStack.root errand 1 none) .fresh 4 := by
  obtain ⟨r, hr⟩ := errand_plays
  obtain ⟨hs, hc, -⟩ := limit_counts_lapses (errand.alone none) (CallStack.root errand 1 none) .fresh hr
    errand_dispatched errand_lapses
  exact ⟨r, hr, hs 5 (by omega), hc 4 (by omega)⟩

theorem errand_cut_at_commands :
    (play (errand.alone none) 5 (CallStack.root errand 1 none) .fresh).map shown =
      some (.ok ⟨true, none, none, #[], none⟩) ∧
    (dispatched (errand.alone none) 5 (CallStack.root errand 1 none) .fresh).length ≤ 3 ∧
    (play (errand.alone (some 3)) 5 (CallStack.root errand 1 none) .fresh).map shown =
      some (.error (.stepLimit 3)) := by
  refine ⟨by cbv, ?_, by cbv⟩
  exact Nat.le_of_eq errand_dispatched

end Turn

end Dialogue
