import Dialogue.Proofs.Json.Canonical

/-! Values that come back from their texts, up to a depth: what may be put into them and what is found there. -/

namespace Dialogue

lemma Fields.lookup_insert_self (name : String) (v : Value) (fields : Fields) :
    (Fields.insert name v fields).lookup name = some v := by
  induction fields with
  | nil => simp [Fields.insert]
  | cons f rest ih =>
    rw [Fields.insert]
    split_ifs with hlt heq
    · simp
    · simp
    · have hb : (name == f.1) = false := by simpa using heq
      rw [List.lookup_cons, hb, ih]

lemma Fields.lookup_insert_ne {name other : String} (h : other ≠ name) (v : Value) (fields : Fields) :
    (Fields.insert name v fields).lookup other = fields.lookup other := by
  have hn : (other == name) = false := by simpa using h
  induction fields with
  | nil => simp [Fields.insert, List.lookup_cons, hn]
  | cons f rest ih =>
    rw [Fields.insert]
    split_ifs with hlt heq
    · rw [List.lookup_cons, hn]
    · rw [List.lookup_cons, List.lookup_cons, ← heq, hn]
    · rw [List.lookup_cons, List.lookup_cons, ih]

namespace Value

structure Fit (depth : Nat) (v : Value) : Prop where
  canonical : v.Canonical
  floatFree : v.FloatFree
  nesting_le : v.nesting ≤ depth

variable {depth : Nat} {v w : Value} {name : String}

lemma fit_null : Fit depth .null := ⟨.null, .null, Nat.zero_le _⟩

lemma fit_bool (b : Bool) : Fit depth (.bool b) := ⟨.bool b, .bool b, Nat.zero_le _⟩

lemma fit_str (s : String) : Fit depth (.str s) := ⟨.str s, .str s, Nat.zero_le _⟩

lemma fit_arr {items : List Value} (h : ∀ v ∈ items, v.Fit depth) : (arr items).Fit (depth + 1) where
  canonical := .arr fun v hv => (h v hv).canonical
  floatFree := .arr fun v hv => (h v hv).floatFree
  nesting_le := nesting_arr_le_iff.mpr fun v hv => (h v hv).nesting_le

lemma fit_obj {fields : Fields} (hs : fields.Sorted) (h : ∀ f ∈ fields, f.2.Fit depth) :
    (obj fields).Fit (depth + 1) where
  canonical := .obj hs fun f hf => (h f hf).canonical
  floatFree := .obj fun f hf => (h f hf).floatFree
  nesting_le := nesting_obj_le_iff.mpr fun f hf => (h f hf).nesting_le

namespace Fit

lemma items (h : Fit (depth + 1) v) {items : List Value} (hi : v.items? = some items) :
    ∀ v ∈ items, v.Fit depth := by
  cases v with
  | arr vs =>
    cases hi
    obtain ⟨hc, hf, hn⟩ := h
    cases hc with
    | arr hc =>
      cases hf with
      | arr hf => exact fun v hv => ⟨hc v hv, hf v hv, nesting_arr_le_iff.mp hn v hv⟩
  | _ => cases hi

lemma fields (h : Fit (depth + 1) v) : v.fields.Sorted ∧ ∀ f ∈ v.fields, f.2.Fit depth := by
  cases v with
  | obj fs =>
    obtain ⟨hc, hf, hn⟩ := h
    cases hc with
    | obj hs hc =>
      cases hf with
      | obj hf => exact ⟨hs, fun f hm => ⟨hc f hm, hf f hm, nesting_obj_le_iff.mp hn f hm⟩⟩
  | _ => exact ⟨List.Pairwise.nil, by simp [Value.fields]⟩

lemma get? (h : Fit (depth + 1) v) (hg : v.get? name = some w) : w.Fit depth := by
  cases v with
  | obj fs =>
    obtain ⟨l, r, hl, -⟩ := List.lookup_eq_some_iff.mp hg
    exact h.fields.2 (name, w) (by simp [Value.fields, hl])
  | _ => cases hg

lemma set (h : Fit (depth + 1) v) (hw : w.Fit depth) : (v.set name w).Fit (depth + 1) := by
  obtain ⟨hs, hf⟩ := h.fields
  refine fit_obj hs.insert fun f hm => ?_
  rcases Fields.mem_insert hm with rfl | hm
  · exact hw
  · exact hf f hm

lemma succ (h : Fit depth v) : Fit (depth + 1) v :=
  ⟨h.canonical, h.floatFree, h.nesting_le.trans (Nat.le_succ depth)⟩

end Fit

lemma get?_set_self (v w : Value) (name : String) : (v.set name w).get? name = some w :=
  Fields.lookup_insert_self name w v.fields

lemma get?_set_ne {other : String} (h : other ≠ name) (v w : Value) :
    (v.set name w).get? other = v.get? other := by
  rw [set, get?, Fields.lookup_insert_ne h]
  cases v <;> rfl

end Value

end Dialogue
