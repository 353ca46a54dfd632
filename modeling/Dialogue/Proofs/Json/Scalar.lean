import Dialogue.Json.Printer
import Dialogue.Json.Reader
import Mathlib

/-! Numbers and strings are read back as they are written. -/

namespace Dialogue

def Numeral.InRange (n : Int) : Prop := -2 ^ 63 ≤ n ∧ n < 2 ^ 64

namespace Reader

def Delimited (rest : List Char) : Prop :=
  ∀ c ∈ rest.head?, Numeral.isDigit c = false ∧ c ≠ '.' ∧ c ≠ 'e' ∧ c ≠ 'E'

lemma delimited_nil : Delimited [] := by simp [Delimited]

lemma delimited_cons {c : Char} (rest : List Char)
    (h : Numeral.isDigit c = false ∧ c ≠ '.' ∧ c ≠ 'e' ∧ c ≠ 'E') : Delimited (c :: rest) := by
  simpa [Delimited] using h

end Reader

namespace Numeral

open Reader

lemma isDigit_of_mem_toDigits {n : Nat} {c : Char} (h : c ∈ Nat.toDigits 10 n) : isDigit c = true :=
  Nat.isDigit_of_mem_toDigits (by omega) (by omega) h

lemma digit_digitChar : ∀ n < 10, digit n.digitChar = n := by decide

lemma gather_toDigits (limit : Nat) {n : Nat} (hn : n ≤ limit) (rest : List Char) :
    gather limit 0 0 (Nat.toDigits 10 n ++ rest) =
      gather limit n (Nat.toDigits 10 n).length rest := by
  induction n using Nat.strong_induction_on generalizing rest with
  | _ n ih =>
    by_cases hs : n < 10
    · rw [Nat.toDigits_of_lt_base hs]
      simp [gather, digit_digitChar n hs, hn]
    · have hd : n / 10 * 10 + digit (n % 10).digitChar = n := by
        rw [digit_digitChar _ (Nat.mod_lt _ (by omega))]
        omega
      rw [Nat.toDigits_of_base_le (by omega) (by omega), List.append_assoc,
        ih (n / 10) (by omega) (by omega)]
      simp [gather, hd, hn]

lemma head?_toDigits {n : Nat} (hn : 0 < n) : (Nat.toDigits 10 n).head? ≠ some '0' := by
  induction n using Nat.strong_induction_on with
  | _ n ih =>
    by_cases hs : n < 10
    · rw [Nat.toDigits_of_lt_base hs]
      interval_cases n <;> decide
    · rw [Nat.toDigits_of_base_le (by omega) (by omega),
        List.head?_append_of_ne_nil _ Nat.toDigits_ne_nil]
      exact ih (n / 10) (by omega) (by omega)

lemma takeWhile_toDigits (n : Nat) {rest : List Char} (h : Delimited rest) :
    (Nat.toDigits 10 n ++ rest).takeWhile isDigit = Nat.toDigits 10 n ∧
      (Nat.toDigits 10 n ++ rest).dropWhile isDigit = rest := by
  have hd : ∀ c ∈ Nat.toDigits 10 n, isDigit c = true := fun c => isDigit_of_mem_toDigits
  rw [List.takeWhile_append_of_pos hd, List.dropWhile_append_of_pos hd]
  cases rest with
  | nil => simp
  | cons c rest => simp [(h c rfl).1]

lemma wholeDigits_toDigits (n : Nat) {rest : List Char} (h : Delimited rest) :
    wholeDigits (Nat.toDigits 10 n ++ rest) = some (Nat.toDigits 10 n, rest) := by
  obtain ⟨ht, hd⟩ := takeWhile_toDigits n h
  have hr : Reader.digits (Nat.toDigits 10 n ++ rest) = some (Nat.toDigits 10 n, rest) := by
    rw [Reader.digits, ht, hd]
    split
    · next hn => exact absurd hn Nat.toDigits_ne_nil
    · rfl
  rw [wholeDigits, hr]
  split
  -- A number of two digits or more does not start with a zero.
  · next c cs _ he =>
    have hh : Nat.toDigits 10 n = '0' :: c :: cs := (Prod.mk.inj (Option.some.inj he)).1
    have hn : 10 ≤ n := by
      by_contra hlt
      simp [Nat.toDigits_of_lt_base (not_le.mp hlt)] at hh
    exact absurd (by rw [hh]; rfl) (head?_toDigits (show 0 < n by omega))
  · rfl

lemma fraction_delimited {rest : List Char} (h : Delimited rest) : fraction rest = some (none, rest) := by
  rw [fraction.eq_def]
  split
  · exact absurd rfl (h '.' rfl).2.1
  · rfl

lemma exponent_delimited {rest : List Char} (h : Delimited rest) : exponent rest = some (none, rest) := by
  cases rest with
  | nil => rfl
  | cons c rest =>
    obtain ⟨-, -, he, hE⟩ := h c rfl
    simp [exponent, he, hE]

lemma unsigned_toDigits (negative : Bool) (n : Nat) {rest : List Char} (h : Delimited rest) :
    unsigned negative (Nat.toDigits 10 n ++ rest) =
      (whole? negative (Nat.toDigits 10 n)).map (·, rest) := by
  simp [unsigned, wholeDigits_toDigits n h, fraction_delimited h, exponent_delimited h]

lemma whole?_toDigits {n : Nat} (hn : n < 2 ^ 64) (negative : Bool) :
    whole? negative (Nat.toDigits 10 n) =
      if !negative then some (.int n)
      else if n = 0 ∨ 2 ^ 63 < n then some (.float ((Double.ofNat n).signed true))
      else some (.int (-n)) := by
  have hg : gather (Nat.pow 2 64 - 1) 0 0 (Nat.toDigits 10 n) = (n, (Nat.toDigits 10 n).length) := by
    have := gather_toDigits (Nat.pow 2 64 - 1) (n := n) (by simp; omega) []
    simpa [gather] using this
  simp [whole?, hg]

lemma toDigits_eq_cons (n : Nat) : ∃ c cs, Nat.toDigits 10 n = c :: cs ∧ isDigit c = true := by
  obtain ⟨c, cs, hc⟩ := List.exists_cons_of_ne_nil (Nat.toDigits_ne_nil (b := 10) (n := n))
  exact ⟨c, cs, hc, isDigit_of_mem_toDigits (n := n) (by simp [hc])⟩

lemma text_eq_cons (n : Int) : ∃ c cs, text n = c :: cs ∧ (c = '-' ∨ isDigit c = true) := by
  by_cases hs : n < 0
  · exact ⟨'-', Nat.toDigits 10 n.natAbs, by simp only [text, hs, if_true], .inl rfl⟩
  · obtain ⟨c, cs, hc, hd⟩ := toDigits_eq_cons n.natAbs
    exact ⟨c, cs, by simp only [text, hs, if_false, hc], .inr hd⟩

lemma gather_le (limit : Nat) (digits : List Char) {n : Nat} (hn : n ≤ limit) (taken : Nat) :
    (gather limit n taken digits).1 ≤ limit := by
  induction digits generalizing n taken with
  | nil => exact hn
  | cons c rest ih =>
    rw [gather]
    split
    · next h => exact ih h _
    · exact hn

end Numeral

namespace Reader

open Numeral

lemma sign_ne {c d : Char} (hc : c = '-' ∨ isDigit c = true) (hd : isDigit d = false) (hm : d ≠ '-') :
    c ≠ d := by
  rintro rfl
  rcases hc with rfl | hc
  · exact hm rfl
  · simp [hd] at hc

lemma isBlank_sign {c : Char} (hc : c = '-' ∨ isDigit c = true) : isBlank c = false := by
  rw [Bool.eq_false_iff]
  intro hb
  simp only [isBlank, Bool.or_eq_true, decide_eq_true_eq] at hb
  rcases hb with ((h | h) | h) | h <;> exact sign_ne hc (by decide) (by decide) h

lemma number_text {n : Int} (hn : Numeral.InRange n) {rest : List Char} (h : Delimited rest) :
    number (Numeral.text n ++ rest) = some (.int n, rest) := by
  obtain ⟨hl, hu⟩ := hn
  by_cases hs : n < 0
  · have hw := whole?_toDigits (n := n.natAbs) (by omega) true
    rw [if_neg (by simp), if_neg (by omega), show -(n.natAbs : Int) = n by omega] at hw
    simp only [Numeral.text, hs, if_true, List.cons_append, number, unsigned_toDigits true _ h, hw,
      Option.map_some]
  · have hw := whole?_toDigits (n := n.natAbs) (by omega) false
    rw [if_pos (by simp), show (n.natAbs : Int) = n by omega] at hw
    have hu := unsigned_toDigits false n.natAbs h
    rw [hw] at hu
    obtain ⟨c, cs, hc, hd⟩ := toDigits_eq_cons n.natAbs
    rw [hc, List.cons_append] at hu
    simp only [Numeral.text, hs, if_false, hc, List.cons_append]
    rw [number.eq_def]
    split
    · next he =>
      obtain ⟨rfl, -⟩ := List.cons.inj he
      exact absurd hd (by decide)
    · exact hu

lemma whole?_eq_some {negative : Bool} {digits : List Char} {v : Value}
    (h : whole? negative digits = some v) : (∃ n, v = .int n ∧ InRange n) ∨ ∃ x, v = .float x := by
  have hm := gather_le (Nat.pow 2 64 - 1) digits (Nat.zero_le _) 0
  simp only [whole?] at h
  generalize gather (Nat.pow 2 64 - 1) 0 0 digits = r at h hm
  obtain ⟨m, taken⟩ := r
  simp only [Nat.pow_eq, Nat.reducePow] at h hm
  split_ifs at h with h₁ h₂ h₃
  · obtain ⟨x, -, rfl⟩ := Option.map_eq_some_iff.mp h
    exact .inr ⟨_, rfl⟩
  · cases h
    exact .inl ⟨m, rfl, by constructor <;> omega⟩
  · cases h
    exact .inr ⟨_, rfl⟩
  · cases h
    exact .inl ⟨_, rfl, by constructor <;> omega⟩

lemma number_eq_some {s rest : List Char} {v : Value} (h : number s = some (v, rest)) :
    (∃ n, v = .int n ∧ InRange n) ∨ ∃ x, v = .float x := by
  obtain ⟨negative, s, h⟩ : ∃ negative s, unsigned negative s = some (v, rest) := by
    rw [number.eq_def] at h
    split at h
    · exact ⟨_, _, h⟩
    · exact ⟨_, _, h⟩
  rw [unsigned] at h
  split at h
  · cases h
  split at h
  · cases h
  split at h
  · cases h
  split at h
  · obtain ⟨v', hw, he⟩ := Option.map_eq_some_iff.mp h
    cases he
    exact whole?_eq_some hw
  · obtain ⟨v', hw, he⟩ := Option.map_eq_some_iff.mp h
    cases he
    obtain ⟨x, -, rfl⟩ := Option.map_eq_some_iff.mp hw
    exact .inr ⟨_, rfl⟩

lemma unit?_hexDigit : ∀ n < 0x20,
    unit? '0' '0' (Quoted.hexDigit (n / 16)) (Quoted.hexDigit (n % 16)) = some n := by decide

lemma chars_letter {c d : Char} (hc : c ≠ 'u') (hd : unescape? c = some d) (acc rest : List Char) :
    chars acc ('\\' :: c :: rest) = chars (d :: acc) rest := by
  simp [chars, hc, hd]

lemma chars_escape (c : Char) (acc rest : List Char) :
    chars acc (Quoted.escape c ++ rest) = chars (c :: acc) rest := by
  rw [Quoted.escape]
  split_ifs with h₁ h₂ h₃ h₄ h₅ h₆ h₇ h₈
  · subst h₁
    exact chars_letter (by decide) rfl acc rest
  · subst h₂
    exact chars_letter (by decide) rfl acc rest
  · subst h₃
    exact chars_letter (by decide) rfl acc rest
  · subst h₄
    exact chars_letter (by decide) rfl acc rest
  · subst h₅
    exact chars_letter (by decide) rfl acc rest
  · subst h₆
    exact chars_letter (by decide) rfl acc rest
  · subst h₇
    exact chars_letter (by decide) rfl acc rest
  -- A control is written by its number, which is far below the halves of a pair.
  · have hu := unit?_hexDigit c.toNat h₈
    have hs : ¬ (0xd800 ≤ c.toNat ∧ c.toNat < 0xdc00) := by omega
    have ht : ¬ (0xdc00 ≤ c.toNat ∧ c.toNat < 0xe000) := by omega
    simp [chars, hu, hs, ht, Char.ofNat_toNat]
  · rw [List.singleton_append, chars.eq_def]
    split <;> simp_all

lemma chars_flatMap_escape (cs acc rest : List Char) :
    chars acc (cs.flatMap Quoted.escape ++ '"' :: rest) = some (acc.reverse ++ cs, rest) := by
  induction cs generalizing acc with
  | nil => simp [chars]
  | cons c cs ih =>
    rw [List.flatMap_cons, List.append_assoc, chars_escape, ih]
    simp

end Reader

end Dialogue
