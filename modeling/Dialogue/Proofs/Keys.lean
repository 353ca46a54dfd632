import Dialogue.Proofs.StopPoint

/-! A list of commands makes a script unless a key comes twice, and then the first command that repeats one is at
fault. -/

namespace Dialogue.Script

variable {κ : Kinds} {s : Script κ} {commands : List (Command κ)} {i j : Nat} {key : String}

section Build

variable (name : String) (commands : List (Command κ)) (initVars : Option Value → Value) (info : Value)

lemma build_cases :
    (∃ s, build name commands initVars info = .ok s ∧ s.name = name ∧ s.commands = commands) ∨
      ∃ j key, build name commands initVars info = .error (.duplicateKey name key) ∧
        FirstRepeatAt commands j key := by
  have hf := StopIndex.exact_empty.fill commands
  rw [build]
  split
  · next key h =>
    rw [List.length_nil, h] at hf
    obtain ⟨j, hj⟩ := hf
    exact .inr ⟨j, key, rfl, hj⟩
  · exact .inl ⟨_, rfl, rfl, rfl⟩

variable {name commands initVars info} in
lemma eq_of_build {s : Script κ} (h : build name commands initVars info = .ok s) :
    s.name = name ∧ s.commands = commands := by
  rcases build_cases name commands initVars info with ⟨s', hs, hn, hc⟩ | ⟨j, key, he, -⟩
  · cases h.symm.trans hs
    exact ⟨hn, hc⟩
  · rw [he] at h
    cases h

lemma build_eq_ok_iff : (∃ s, build name commands initVars info = .ok s) ↔
    ∀ i j key, StopsAt commands i key → StopsAt commands j key → i = j := by
  rcases build_cases name commands initVars info with ⟨s, hs, -, rfl⟩ | ⟨j, key, he, hj⟩
  · refine iff_of_true ⟨s, hs⟩ fun i j key hi hj => ?_
    exact s.stops_exact.place_unique hi hj
  · obtain ⟨hstop, i, hlt, hi⟩ := hj.repeats
    refine iff_of_false ?_ fun h => hlt.ne (h i j key hi hstop)
    rintro ⟨s, hs⟩
    rw [he] at hs
    cases hs

lemma build_eq_error_iff (e : ScriptError) : build name commands initVars info = .error e ↔
    ∃ j key, FirstRepeatAt commands j key ∧ e = .duplicateKey name key := by
  rcases build_cases name commands initVars info with ⟨s, hs, -, rfl⟩ | ⟨j, key, he, hj⟩
  · rw [hs]
    refine iff_of_false (by simp) ?_
    rintro ⟨j, key, ⟨⟨hj, i, hlt, hi⟩, -⟩, -⟩
    exact hlt.ne (s.stops_exact.place_unique hi hj)
  · rw [he]
    constructor
    · rintro ⟨⟩
      exact ⟨j, key, hj, rfl⟩
    · rintro ⟨j', key', hj', rfl⟩
      rw [hj.unique hj']

end Build

section Lookup

lemma stopIndex_eq_ok_iff : s.stopIndex key = .ok i ↔ StopsAt s.commands i key := by
  rw [stopsAt_iff, ← stopIndex?_eq_some_iff, stopIndex]
  cases s.stopIndex? key <;> simp

lemma fst_eq_ok_iff {target : Except RunError (Nat × Option (Update κ))} {At : Nat → Option (Update κ) → Prop}
    (h : ∀ j store, target = .ok (j, store) ↔ At j store) :
    target.map Prod.fst = .ok i ↔ ∃ store, At i store := by
  simp only [← h]
  cases target with
  | error e => simp [Except.map]
  | ok target =>
    obtain ⟨j, store⟩ := target
    simp [Except.map]

lemma asking_of_callsAt (h : CallsAt s.commands i key) : s.asking key = .error (.notAsking s.name key) := by
  have hi : s.stopIndex key = .ok i := stopIndex_eq_ok_iff.mpr (.inr h)
  obtain ⟨store, callee, entry, params, hc⟩ := h
  simp [asking, hi, hc]

lemma calling_of_asksAt (h : AsksAt s.commands i key) : s.calling key = .error (.notCalling s.name key) := by
  have hi : s.stopIndex key = .ok i := stopIndex_eq_ok_iff.mpr (.inl h)
  obtain ⟨store, hc⟩ := h
  simp [calling, hi, hc]

lemma stopIndex_of_not_stopsAt (h : ∀ i, ¬ StopsAt s.commands i key) :
    s.stopIndex key = .error (.keyNotFound s.name key) := by
  rw [stopIndex]
  cases hs : s.stopIndex? key with
  | none => rfl
  | some i => exact absurd (stopsAt_iff.mpr (stopIndex?_eq_some_iff.mp hs)) (h i)

end Lookup

theorem build_indexes (name : String) (commands : List (Command κ)) (initVars : Option Value → Value) (info : Value) :
    ((∃ s, build name commands initVars info = .ok s) ↔
      ∀ i j key, StopsAt commands i key → StopsAt commands j key → i = j) ∧
    (∀ e, build name commands initVars info = .error e ↔
      ∃ j key, FirstRepeatAt commands j key ∧ e = .duplicateKey name key) ∧
    ∀ s, build name commands initVars info = .ok s → ∀ key,
      (∀ i, (s.stops.get? key = some i ↔ StopsAt commands i key) ∧
        (s.stopIndex key = .ok i ↔ StopsAt commands i key) ∧
        ((s.asking key).map Prod.fst = .ok i ↔ AsksAt commands i key) ∧
        ((s.calling key).map Prod.fst = .ok i ↔ CallsAt commands i key) ∧
        (CallsAt commands i key → s.asking key = .error (.notAsking name key)) ∧
        (AsksAt commands i key → s.calling key = .error (.notCalling name key))) ∧
      ((∀ i, ¬ StopsAt commands i key) → s.stopIndex key = .error (.keyNotFound name key) ∧
        s.asking key = .error (.keyNotFound name key) ∧ s.calling key = .error (.keyNotFound name key)) := by
  refine ⟨build_eq_ok_iff .., build_eq_error_iff name commands initVars info, fun s hs key => ?_⟩
  obtain ⟨rfl, rfl⟩ := eq_of_build hs
  refine ⟨fun i => ⟨s.stops_exact key i, stopIndex_eq_ok_iff, fst_eq_ok_iff fun _ _ => asking_eq_ok_iff,
    fst_eq_ok_iff fun _ _ => calling_eq_ok_iff, asking_of_callsAt, calling_of_asksAt⟩, fun hn => ?_⟩
  have hi := stopIndex_of_not_stopsAt hn
  exact ⟨hi, by rw [asking, hi], by rw [calling, hi]⟩

def tourCommands : List (Command .common) :=
  [.finish none, .ask "way" none, .jump 1, .call "sight" 0 none none none]

theorem tour_build_indexes : ∃ s, build "tour" tourCommands defaultVars .null = .ok s ∧
    s.stops.get? "way" = some 1 ∧ s.stopIndex "sight" = .ok 3 ∧
    s.asking "sight" = .error (.notAsking "tour" "sight") ∧
    s.calling "door" = .error (.keyNotFound "tour" "door") := by
  obtain ⟨-, -, h⟩ := build_indexes "tour" tourCommands defaultVars .null
  have hw : AsksAt tourCommands 1 "way" := ⟨none, rfl⟩
  have hs : CallsAt tourCommands 3 "sight" := ⟨none, 0, none, none, rfl⟩
  have hd : ∀ i, ¬ StopsAt tourCommands i "door" := by
    intro i hi
    obtain ⟨c, hc, hk⟩ := stopsAt_iff.mp hi
    have hm := List.mem_of_getElem? hc
    simp only [tourCommands, List.mem_cons, List.not_mem_nil, or_false] at hm
    rcases hm with rfl | rfl | rfl | rfl <;> simp [Command.key?] at hk
  obtain ⟨hi, -⟩ := (h _ rfl "way").1 1
  obtain ⟨-, hj, -, -, ha, -⟩ := (h _ rfl "sight").1 3
  exact ⟨_, rfl, hi.mpr (.inl hw), hj.mpr (.inr hs), ha hs, ((h _ rfl "door").2 hd).2.2⟩

end Dialogue.Script
