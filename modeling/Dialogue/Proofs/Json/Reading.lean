import Dialogue.Proofs.Json.Canonical

/-! What a reader gives has the properties that each of its parts has. So every value that is read has its
fields in order and its numbers in range, and does not nest deeper than the reader goes. -/

namespace Dialogue.Reader

variable {α σ : Type} {s rest : List Char}

lemma items_forall {item : Reader α} {P : α → Prop}
    (hi : ∀ s a rest, item s = some (a, rest) → P a) {fuel : Nat} {acc as : List α}
    (h : items item fuel acc s = some (as, rest)) (hacc : ∀ a ∈ acc, P a) : ∀ a ∈ as, P a := by
  induction fuel generalizing acc s with
  | zero => simp [items] at h
  | succ fuel ih =>
    rw [items] at h
    split at h
    · cases h
    · next a rest' ha =>
      have hcons : ∀ b ∈ a :: acc, P b := List.forall_mem_cons.mpr ⟨hi _ _ _ ha, hacc⟩
      split at h
      · exact ih h hcons
      · cases h
        intro b hb
        exact hcons b (List.mem_reverse.mp hb)
      · cases h

lemma list_forall {item : Reader α} {P : α → Prop}
    (hi : ∀ s a rest, item s = some (a, rest) → P a) {as : List α}
    (h : list item s = some (as, rest)) : ∀ a ∈ as, P a := by
  rw [list] at h
  split at h
  · cases h
    simp
  · exact items_forall hi h (by simp)

lemma members_invariant {member : σ → String → Reader σ} {I : σ → Prop}
    (hm : ∀ state name s state' rest, I state → member state name s = some (state', rest) → I state')
    {fuel : Nat} {state state' : σ} (h : members member fuel state s = some (state', rest))
    (hi : I state) : I state' := by
  induction fuel generalizing state s with
  | zero => simp [members] at h
  | succ fuel ih =>
    rw [members] at h
    split at h
    · cases h
    split at h
    · split at h
      · cases h
      · next state₁ rest₁ h₁ =>
        have hi₁ := hm _ _ _ _ _ hi h₁
        split at h
        · exact ih h hi₁
        · cases h
          exact hi₁
        · cases h
    · cases h

lemma object_invariant {member : σ → String → Reader σ} {I : σ → Prop}
    (hm : ∀ state name s state' rest, I state → member state name s = some (state', rest) → I state')
    {state state' : σ} (h : object member state s = some (state', rest)) (hi : I state) : I state' := by
  rw [object] at h
  split at h
  · cases h
    exact hi
  · exact members_invariant hm h hi

section Records

variable {fields : List (Field σ)} {I : σ → Prop}

def Keeps (I : σ → Prop) (field : Field σ) : Prop :=
  ∀ s u rest, field.read s = some (u, rest) → ∀ draft, I draft → I (u draft)

lemma keeps_of {name : String} {read : Reader α} {put : α → σ → σ}
    (h : ∀ s a rest, read s = some (a, rest) → ∀ draft, I draft → I (put a draft)) :
    Keeps I (Field.of name read put) := by
  intro s u rest hr
  obtain ⟨⟨a, tail⟩, ha, he⟩ := Option.map_eq_some_iff.mp hr
  cases he
  exact h s a _ ha

lemma slots_invariant (hf : ∀ field ∈ fields, Keeps I field) {draft draft' : σ}
    (h : slots fields draft s = some (draft', rest)) (hi : I draft) : I draft' := by
  induction fields generalizing draft s with
  | nil => simp [slots] at h
  | cons field fields ih =>
    obtain ⟨hfield, hfields⟩ := List.forall_mem_cons.mp hf
    rw [slots] at h
    split at h
    · cases h
    · next u s' hr =>
      have hu := hfield _ _ _ hr _ hi
      split at h
      · exact ih hfields h hu
      · cases h
        exact hu
      · cases h

lemma known_invariant (hf : ∀ field ∈ fields, Keeps I field) {state state' : σ × List String}
    {name : String} (hi : I state.1) (h : known fields state name s = some (state', rest)) :
    I state'.1 := by
  rw [known] at h
  split at h
  · obtain ⟨s', -, he⟩ := Option.map_eq_some_iff.mp h
    cases he
    exact hi
  · next field hfind =>
    split at h
    · cases h
    · obtain ⟨⟨u, s'⟩, hr, he⟩ := Option.map_eq_some_iff.mp h
      cases he
      exact hf field (List.mem_of_find?_eq_some hfind) _ _ _ hr _ hi

lemma record_invariant {draft : σ} {finish : σ → Option α} {a : α}
    (hf : ∀ field ∈ fields, Keeps I field) (hi : I draft)
    (h : record fields draft finish s = some (a, rest)) : ∃ d, I d ∧ finish d = some a := by
  rw [record] at h
  split at h
  · split at h
    · cases h
    · next state rest' ho =>
      obtain ⟨a', ha, he⟩ := Option.map_eq_some_iff.mp h
      cases he
      refine ⟨state.1, ?_, ha⟩
      exact object_invariant (I := fun state => I state.1)
        (fun _ _ _ _ _ hi hk => known_invariant hf hi hk) ho hi
  · split at h
    · obtain ⟨a', ha, he⟩ := Option.map_eq_some_iff.mp h
      cases he
      exact ⟨draft, hi, ha⟩
    · split at h
      · cases h
      · next draft' rest' hs =>
        obtain ⟨a', ha, he⟩ := Option.map_eq_some_iff.mp h
        cases he
        exact ⟨draft', slots_invariant hf hs hi, ha⟩
  · cases h

end Records

lemma value_eq_some {depth : Nat} {v : Value} (h : value depth s = some (v, rest)) :
    (v.Canonical ∧ v.nesting = 0) ∨ ∃ d, depth = d + 1 ∧
      ((∃ vs s', v = .arr vs ∧ list (value d) s' = some (vs, rest)) ∨
        ∃ fs s', v = .obj fs ∧ object (fun fields name s => (value d s).map fun (v, rest) =>
          (Fields.insert name v fields, rest)) [] s' = some (fs, rest)) := by
  rw [value.eq_def] at h
  split at h
  · cases h
    exact .inl ⟨.null, rfl⟩
  · cases h
    exact .inl ⟨.bool true, rfl⟩
  · cases h
    exact .inl ⟨.bool false, rfl⟩
  · obtain ⟨⟨cs, tail⟩, -, he⟩ := Option.map_eq_some_iff.mp h
    cases he
    exact .inl ⟨.str _, rfl⟩
  · split at h
    · cases h
    · obtain ⟨⟨vs, tail⟩, hl, he⟩ := Option.map_eq_some_iff.mp h
      cases he
      exact .inr ⟨_, rfl, .inl ⟨vs, _, rfl, hl⟩⟩
  · split at h
    · cases h
    · obtain ⟨⟨fs, tail⟩, ho, he⟩ := Option.map_eq_some_iff.mp h
      cases he
      exact .inr ⟨_, rfl, .inr ⟨fs, _, rfl, ho⟩⟩
  · left
    rcases number_eq_some h with ⟨n, rfl, hn⟩ | ⟨x, rfl⟩
    · exact ⟨.int hn, rfl⟩
    · exact ⟨.float x, rfl⟩

lemma value_canonical {depth : Nat} {v : Value} (h : value depth s = some (v, rest)) :
    v.Canonical ∧ v.nesting ≤ depth := by
  induction depth generalizing s v rest with
  | zero =>
    rcases value_eq_some h with ⟨hc, hn⟩ | ⟨d, hd, -⟩
    · exact ⟨hc, hn.le⟩
    · cases hd
  | succ depth ih =>
    rcases value_eq_some h with ⟨hc, hn⟩ | ⟨d, hd, ⟨vs, s', rfl, hl⟩ | ⟨fs, s', rfl, ho⟩⟩
    · exact ⟨hc, hn.le.trans (Nat.zero_le _)⟩
    · cases hd
      have hv := list_forall (fun _ _ _ => ih) hl
      exact ⟨.arr fun v hm => (hv v hm).1, Value.nesting_arr_le_iff.mpr fun v hm => (hv v hm).2⟩
    · cases hd
      -- An object grows field by field, and every field finds its place in the order.
      obtain ⟨hs, hv⟩ := object_invariant
        (I := fun fs => Fields.Sorted fs ∧ ∀ f ∈ fs, f.2.Canonical ∧ f.2.nesting ≤ depth)
        (by
          rintro fields name s state' tail ⟨hs, hf⟩ hm
          obtain ⟨⟨v, tail'⟩, hv, he⟩ := Option.map_eq_some_iff.mp hm
          cases he
          refine ⟨hs.insert, fun f hf' => ?_⟩
          rcases Fields.mem_insert hf' with rfl | hf'
          · exact ih hv
          · exact hf f hf')
        ho ⟨List.Pairwise.nil, by simp⟩
      exact ⟨.obj hs fun f hm => (hv f hm).1, Value.nesting_obj_le_iff.mpr fun f hm => (hv f hm).2⟩

end Dialogue.Reader
