import Dialogue.Disk
import Mathlib

/-! What a path leads to after a file was written or removed. Paths go through folders, so files do not change
where a path leads. -/

namespace Dialogue.Disk

variable {d d' : Disk} {place : Place} {path text : String}

lemma lookup_filter_ne {α : Type} (nodes : List (Place × α)) (place p : Place) :
    (nodes.filter fun entry => entry.1 ≠ place).lookup p = if p = place then none else nodes.lookup p := by
  induction nodes with
  | nil => simp
  | cons entry rest ih =>
    obtain ⟨q, a⟩ := entry
    by_cases hq : q = place
    · rw [List.filter_cons_of_neg (by simpa using hq), ih]
      split_ifs with hp
      · rfl
      · have hb : (p == q) = false := by simpa [hq] using hp
        rw [List.lookup_cons, hb]
    · rw [List.filter_cons_of_pos (by simpa using hq), List.lookup_cons, List.lookup_cons, ih]
      by_cases hp : p = q
      · simp [hp, hq]
      · have hb : (p == q) = false := by simpa using hp
        simp [hb]

lemma node?_put (h : d.node? place ≠ some .folder) (node : Node) (p : Place) :
    (d.put place node).node? p = if p = place then some node else d.node? p := by
  have hr : ¬ (place = ["/"] ∨ place.all (· = "..")) := fun hr => h (if_pos hr)
  by_cases hp : p = place
  · rw [if_pos hp, hp, node?, if_neg hr, put, List.lookup_cons]
    simp
  · have hb : (p == place) = false := by simpa using hp
    simp only [node?, put, List.lookup_cons, hb, lookup_filter_ne, hp, if_false]

lemma node?_erase (h : d.node? place ≠ some .folder) (p : Place) :
    (Disk.mk (d.nodes.filter fun entry => entry.1 ≠ place)).node? p =
      if p = place then none else d.node? p := by
  have hr : ¬ (place = ["/"] ∨ place.all (· = "..")) := fun hr => h (if_pos hr)
  by_cases hp : p = place
  · rw [if_pos hp, hp, node?, if_neg hr, lookup_filter_ne, if_pos rfl]
  · simp only [node?, lookup_filter_ne, hp, if_false]

def SameFolders (d d' : Disk) : Prop := ∀ p, d'.node? p = some .folder ↔ d.node? p = some .folder

lemma sameFolders_of_ne {node : Option Node} (h : d.node? place ≠ some .folder) (hn : node ≠ some .folder)
    (hd : ∀ p, d'.node? p = if p = place then node else d.node? p) : SameFolders d d' := by
  intro p
  rw [hd]
  split_ifs with hp
  · rw [hp]
    exact ⟨fun hf => absurd hf hn, fun hf => absurd hf h⟩
  · rfl

lemma walk_congr (h : SameFolders d d') (place : Place) (names : List String) :
    d'.walk place names = d.walk place names := by
  induction names generalizing place with
  | nil => rfl
  | cons name rest ih => simp only [walk, ne_eq, h place, ih]

lemma place?_congr (h : SameFolders d d') (path : String) : d'.place? path = d.place? path := by
  simp only [place?, walk_congr h]

lemma look_write (h : d.write? path text = some d') :
    d'.look path = some (.file text) ∧ d'.place? path = d.place? path := by
  rw [write?] at h
  split at h
  · cases h
  · next place hp =>
    split_ifs at h with hf
    cases h
    have hd := node?_put hf (.file text)
    have hw := place?_congr (sameFolders_of_ne hf (by simp) hd) path
    refine ⟨?_, hw⟩
    rw [look, hw, hp, Option.bind_some, hd, if_pos rfl]

lemma look_remove (h : d.remove? path = some d') :
    d'.look path = none ∧ d'.place? path = d.place? path := by
  rw [remove?] at h
  split at h
  · next place text hp hl =>
    cases h
    have hf : d.node? place ≠ some .folder := by
      rw [look, hp, Option.bind_some] at hl
      simp [hl]
    have hd := node?_erase hf
    have hw := place?_congr (sameFolders_of_ne hf (by simp) hd) path
    refine ⟨?_, hw⟩
    rw [look, hw, hp, Option.bind_some, hd, if_pos rfl]
  · cases h

end Dialogue.Disk
