import Dialogue.StopPoint
import Mathlib

/-! Keys stand for places. The index of a script is filled command by command; at each point it has just the stop
points that were passed, so in the end a key finds the one stop point that has it. -/

namespace Dialogue

variable {κ : Kinds}

namespace Script

section Places

variable (commands : List (Command κ))

def AsksAt (i : Nat) (key : String) : Prop := ∃ store, commands[i]? = some (.ask key store)

def CallsAt (i : Nat) (key : String) : Prop :=
  ∃ store callee entry params, commands[i]? = some (.call key callee entry params store)

def StopsAt (i : Nat) (key : String) : Prop := AsksAt commands i key ∨ CallsAt commands i key

def RepeatsAt (j : Nat) (key : String) : Prop := StopsAt commands j key ∧ ∃ i < j, StopsAt commands i key

structure FirstRepeatAt (j : Nat) (key : String) : Prop where
  repeats : RepeatsAt commands j key
  first : ∀ k < j, ∀ other, ¬ RepeatsAt commands k other

end Places

variable {commands front back : List (Command κ)} {c : Command κ} {i j : Nat} {key other : String}

lemma stopsAt_iff : StopsAt commands i key ↔ ∃ c, commands[i]? = some c ∧ c.key? = some key := by
  constructor
  · rintro (⟨store, h⟩ | ⟨store, callee, entry, params, h⟩)
    · exact ⟨_, h, rfl⟩
    · exact ⟨_, h, rfl⟩
  · rintro ⟨c, h, hk⟩
    cases c with
    | ask k store =>
      cases hk
      exact .inl ⟨store, h⟩
    | call k callee entry params store =>
      cases hk
      exact .inr ⟨store, callee, entry, params, h⟩
    | _ => cases hk

lemma StopsAt.key_unique (h : StopsAt commands i key) (h' : StopsAt commands i other) : key = other := by
  obtain ⟨c, hc, hk⟩ := stopsAt_iff.mp h
  obtain ⟨d, hd, hl⟩ := stopsAt_iff.mp h'
  cases hc.symm.trans hd
  exact Option.some.inj (hk.symm.trans hl)

lemma StopsAt.lt_length (h : StopsAt commands i key) : i < commands.length := by
  obtain ⟨c, hc, -⟩ := stopsAt_iff.mp h
  exact (List.getElem?_eq_some_iff.mp hc).1

lemma FirstRepeatAt.unique (h : FirstRepeatAt commands i key) (h' : FirstRepeatAt commands j other) :
    key = other := by
  rcases Nat.lt_trichotomy i j with hlt | rfl | hgt
  · exact absurd h.repeats (h'.first i hlt key)
  · exact h.repeats.1.key_unique h'.repeats.1
  · exact absurd h'.repeats (h.first j hgt other)

lemma stopsAt_append (hi : i < front.length) : StopsAt (front ++ back) i key ↔ StopsAt front i key := by
  rw [stopsAt_iff, stopsAt_iff, List.getElem?_append_left hi]

lemma stopsAt_concat : StopsAt (front ++ [c]) i key ↔
    StopsAt front i key ∨ i = front.length ∧ c.key? = some key := by
  rcases Nat.lt_trichotomy i front.length with hlt | rfl | hgt
  · rw [stopsAt_append hlt]
    exact (or_iff_left fun h => hlt.ne h.1).symm
  · simp [stopsAt_iff]
  · refine iff_of_false (fun h => ?_) ?_
    · have hlt := h.lt_length
      rw [List.length_append, List.length_singleton] at hlt
      omega
    · rintro (h | ⟨rfl, -⟩)
      · exact absurd h.lt_length hgt.not_gt
      · exact hgt.ne rfl

end Script

namespace StopIndex

open Script

def Exact (x : StopIndex) (commands : List (Command κ)) : Prop :=
  ∀ key i, x.get? key = some i ↔ StopsAt commands i key

def Files (commands : List (Command κ)) : Except String StopIndex → Prop
  | .ok x => x.Exact commands
  | .error key => ∃ j, FirstRepeatAt commands j key

variable {x : StopIndex} {front rest : List (Command κ)} {c : Command κ} {key : String} {i j : Nat}

lemma get?_insert (x : StopIndex) (key : String) (place : Nat) (k : String) :
    (x.insert key place).2.get? k = if k = key then some place else x.get? k := by
  by_cases hk : k = key
  · simp [insert, get?, hk]
  · have hb : (k == key) = false := by simpa using hk
    simp only [insert, get?, List.lookup_cons, hb, hk, if_false]

lemma exact_empty : Exact {} ([] : List (Command κ)) := by
  intro key i
  simp [get?, stopsAt_iff]

lemma Exact.place_unique (h : x.Exact front) (hi : StopsAt front i key) (hj : StopsAt front j key) : i = j :=
  Option.some.inj (((h key i).mpr hi).symm.trans ((h key j).mpr hj))

lemma Exact.pass (h : x.Exact front) (hc : c.key? = none) : x.Exact (front ++ [c]) := by
  intro key i
  simp [h key i, stopsAt_concat, hc]

lemma Exact.insert (h : x.Exact front) (hc : c.key? = some key) (hn : x.get? key = none) :
    (x.insert key front.length).2.Exact (front ++ [c]) := by
  intro k i
  rw [get?_insert, stopsAt_concat, hc]
  split_ifs with hk
  · subst hk
    have hf : ¬ StopsAt front i k := fun hs => by simp [(h k i).mpr hs] at hn
    simp [hf, eq_comm]
  · rw [h k i]
    exact (or_iff_left fun hi => hk (Option.some.inj hi.2).symm).symm

lemma Exact.repeats (h : x.Exact front) (hc : c.key? = some key) (hk : x.get? key = some i) :
    FirstRepeatAt (front ++ c :: rest) front.length key := by
  have hi : StopsAt front i key := (h key i).mp hk
  have hj : StopsAt (front ++ c :: rest) front.length key := stopsAt_iff.mpr ⟨c, by simp, hc⟩
  refine ⟨⟨hj, i, hi.lt_length, (stopsAt_append hi.lt_length).mpr hi⟩, ?_⟩
  -- Before this place every key was new to the index.
  rintro k hk other ⟨hsk, l, hl, hsl⟩
  rw [stopsAt_append hk] at hsk
  rw [stopsAt_append (hl.trans hk)] at hsl
  exact hl.ne (h.place_unique hsl hsk)

lemma Exact.fill (h : x.Exact front) (rest : List (Command κ)) :
    Files (front ++ rest) (x.fill front.length rest) := by
  induction rest generalizing x front with
  | nil => rwa [List.append_nil]
  | cons c rest ih =>
    have hlen : (front ++ [c]).length = front.length + 1 := by simp
    have hstep : front ++ c :: rest = (front ++ [c]) ++ rest := by simp
    cases hc : c.key? with
    | none =>
      simp only [StopIndex.fill, hc, ← hlen]
      rw [hstep]
      exact ih (h.pass hc)
    | some key =>
      cases hk : x.get? key with
      | none =>
        simp only [StopIndex.fill, StopIndex.insert, hc, hk, ← hlen]
        rw [hstep]
        exact ih (h.insert hc hk)
      | some i =>
        simp only [StopIndex.fill, StopIndex.insert, hc, hk]
        exact ⟨_, h.repeats hc hk⟩

end StopIndex

namespace Script

variable {s : Script κ} {key : String} {i : Nat} {store : Option (Update κ)}

lemma stops_exact (s : Script κ) : s.stops.Exact s.commands := by
  have h := StopIndex.exact_empty.fill s.commands
  rwa [List.length_nil, s.indexed] at h

lemma stopIndex?_eq_some_iff :
    s.stopIndex? key = some i ↔ ∃ c, s.commands[i]? = some c ∧ c.key? = some key :=
  (s.stops_exact key i).trans stopsAt_iff

lemma asking_eq_ok_iff : s.asking key = .ok (i, store) ↔ s.commands[i]? = some (.ask key store) := by
  constructor
  · intro h
    cases hk : s.stopIndex? key with
    | none => simp [asking, stopIndex, hk] at h
    | some j =>
      obtain ⟨c, hj, hc⟩ := stopIndex?_eq_some_iff.mp hk
      simp only [asking, stopIndex, hk, hj] at h
      cases c <;> simp_all [Command.key?]
  · intro h
    have hk : s.stopIndex? key = some i := stopIndex?_eq_some_iff.mpr ⟨_, h, rfl⟩
    simp [asking, stopIndex, hk, h]

lemma calling_eq_ok_iff : s.calling key = .ok (i, store) ↔
    ∃ callee entry params, s.commands[i]? = some (.call key callee entry params store) := by
  constructor
  · intro h
    cases hk : s.stopIndex? key with
    | none => simp [calling, stopIndex, hk] at h
    | some j =>
      obtain ⟨c, hj, hc⟩ := stopIndex?_eq_some_iff.mp hk
      simp only [calling, stopIndex, hk, hj] at h
      cases c <;> simp_all [Command.key?]
  · rintro ⟨callee, entry, params, h⟩
    have hk : s.stopIndex? key = some i := stopIndex?_eq_some_iff.mpr ⟨_, h, rfl⟩
    simp [calling, stopIndex, hk, h]

end Script

end Dialogue
