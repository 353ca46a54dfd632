import Dialogue.Proofs.Json.Layout

/-! Values as they are read: numbers of 64 bits, and fields in order. Those without binary numbers are read
back from their texts, as long as they do not nest too deep. -/

namespace Dialogue

namespace Value

mutual

def nesting : Value → Nat
  | arr items => nestingItems items + 1
  | obj fields => nestingFields fields + 1
  | _ => 0

def nestingItems : List Value → Nat
  | [] => 0
  | v :: rest => max (nesting v) (nestingItems rest)

def nestingFields : List (String × Value) → Nat
  | [] => 0
  | (_, v) :: rest => max (nesting v) (nestingFields rest)

end

inductive FloatFree : Value → Prop
  | null : FloatFree .null
  | bool (b : Bool) : FloatFree (.bool b)
  | int (n : Int) : FloatFree (.int n)
  | str (s : String) : FloatFree (.str s)
  | arr {items : List Value} : (∀ v ∈ items, FloatFree v) → FloatFree (.arr items)
  | obj {fields : Fields} : (∀ f ∈ fields, FloatFree f.2) → FloatFree (.obj fields)

end Value

def Fields.Sorted (fields : Fields) : Prop := fields.Pairwise fun f g => f.1 < g.1

namespace Value

inductive Canonical : Value → Prop
  | null : Canonical .null
  | bool (b : Bool) : Canonical (.bool b)
  | int {n : Int} : Numeral.InRange n → Canonical (.int n)
  | float (x : Double) : Canonical (.float x)
  | str (s : String) : Canonical (.str s)
  | arr {items : List Value} : (∀ v ∈ items, Canonical v) → Canonical (.arr items)
  | obj {fields : Fields} : fields.Sorted → (∀ f ∈ fields, Canonical f.2) → Canonical (.obj fields)

lemma nesting_arr_le_iff {items : List Value} {depth : Nat} :
    (arr items).nesting ≤ depth + 1 ↔ ∀ v ∈ items, v.nesting ≤ depth := by
  have hi : nestingItems items ≤ depth ↔ ∀ v ∈ items, v.nesting ≤ depth := by
    induction items with
    | nil => simp [nestingItems]
    | cons v rest ih => simp [nestingItems, ih]
  rw [nesting, Nat.add_le_add_iff_right, hi]

lemma nesting_obj_le_iff {fields : Fields} {depth : Nat} :
    (obj fields).nesting ≤ depth + 1 ↔ ∀ f ∈ fields, f.2.nesting ≤ depth := by
  have hi : nestingFields fields ≤ depth ↔ ∀ f ∈ fields, f.2.nesting ≤ depth := by
    induction fields with
    | nil => simp [nestingFields]
    | cons f rest ih => simp [nestingFields, ih]
  rw [nesting, Nat.add_le_add_iff_right, hi]

end Value

namespace Fields

variable {fields : Fields} {name : String} {v : Value}

lemma mem_insert {f : String × Value} (h : f ∈ Fields.insert name v fields) :
    f = (name, v) ∨ f ∈ fields := by
  induction fields with
  | nil => simpa [Fields.insert] using h
  | cons g rest ih =>
    rw [Fields.insert] at h
    split_ifs at h with hlt heq
    · simpa using h
    · rcases List.mem_cons.mp h with rfl | h
      · exact .inl rfl
      · exact .inr (List.mem_cons_of_mem g h)
    · rcases List.mem_cons.mp h with rfl | h
      · exact .inr List.mem_cons_self
      · exact (ih h).imp id (List.mem_cons_of_mem g)

lemma Sorted.insert (h : fields.Sorted) : (Fields.insert name v fields).Sorted := by
  induction fields with
  | nil => exact List.pairwise_singleton _ _
  | cons g rest ih =>
    obtain ⟨hg, hr⟩ := List.pairwise_cons.mp h
    rw [Fields.insert]
    split_ifs with hlt heq
    · refine List.pairwise_cons.mpr ⟨?_, h⟩
      intro f hf
      rcases List.mem_cons.mp hf with rfl | hf
      · exact hlt
      · exact hlt.trans (hg f hf)
    · refine List.pairwise_cons.mpr ⟨fun f hf => ?_, hr⟩
      rw [heq]
      exact hg f hf
    · refine List.pairwise_cons.mpr ⟨fun f hf => ?_, ih hr⟩
      rcases mem_insert hf with rfl | hf
      · exact lt_of_le_of_ne (not_lt.mp hlt) (Ne.symm heq)
      · exact hg f hf

lemma insert_eq_append (h : ∀ f ∈ fields, f.1 < name) :
    Fields.insert name v fields = fields ++ [(name, v)] := by
  induction fields with
  | nil => rfl
  | cons g rest ih =>
    obtain ⟨hg, hr⟩ := List.forall_mem_cons.mp h
    rw [Fields.insert, if_neg hg.asymm, if_neg hg.ne', ih hr]
    rfl

lemma foldlM_insert (p : Value → Prop) [DecidablePred p] (acc : Fields)
    (h : Fields.Sorted (acc ++ fields)) :
    fields.foldlM (fun fs (f : String × Value) => if p f.2 then some (Fields.insert f.1 f.2 fs) else none) acc =
      if ∀ f ∈ fields, p f.2 then some (acc ++ fields) else none := by
  induction fields generalizing acc with
  | nil => simp
  | cons f rest ih =>
    have hlt : ∀ g ∈ acc, g.1 < f.1 := fun g hg =>
      (List.pairwise_append.mp h).2.2 g hg f List.mem_cons_self
    by_cases hp : p f.2
    · have hi := ih (acc ++ [f]) (by simpa using h)
      simp only [List.foldlM_cons, hp, if_true, List.forall_mem_cons, true_and,
        insert_eq_append hlt]
      simpa using hi
    · simp [hp]

end Fields

namespace Reader

lemma mapM_ite {α : Type} {p : α → Prop} [DecidablePred p] (xs : List α) :
    (xs.mapM fun x => if p x then some x else none) = if ∀ x ∈ xs, p x then some xs else none := by
  induction xs with
  | nil => simp
  | cons x xs ih =>
    rw [List.mapM_cons, ih]
    by_cases hp : p x
    · by_cases hs : ∀ y ∈ xs, p y
      · rw [if_pos hp, if_pos hs, if_pos (List.forall_mem_cons.mpr ⟨hp, hs⟩)]
        rfl
      · rw [if_pos hp, if_neg hs, if_neg fun h => hs (List.forall_mem_cons.mp h).2]
        rfl
    · rw [if_neg hp, if_neg fun h => hp (List.forall_mem_cons.mp h).1]
      rfl

lemma value_blanks {b : List Char} (hb : ∀ c ∈ b, isBlank c = true) (depth : Nat) (s : List Char) :
    value depth (b ++ s) = value depth s := by
  rw [value.eq_def, value.eq_def, skipBlanks_append hb]

lemma value_sign {c : Char} (hc : c = '-' ∨ Numeral.isDigit c = true) (depth : Nat) (s : List Char) :
    value depth (c :: s) = number (c :: s) := by
  rw [value.eq_def, skipBlanks_cons (isBlank_sign hc)]
  split
  case h_7 => rfl
  all_goals
    next he => exact absurd (List.cons.inj he).1 (sign_ne hc (by decide) (by decide))

lemma value_list (depth : Nat) (s : List Char) : value depth ('[' :: s) =
    match depth with
    | 0 => none
    | depth + 1 => (list (value depth) s).map fun (vs, rest) => (.arr vs, rest) := by
  rw [value.eq_def, skipBlanks_cons (by decide)]
  rfl

lemma value_object (depth : Nat) (s : List Char) : value depth ('{' :: s) =
    match depth with
    | 0 => none
    | depth + 1 =>
      (object (fun fields name s => (value depth s).map fun (v, rest) =>
        (Fields.insert name v fields, rest)) [] s).map fun (fields, rest) => (.obj fields, rest) := by
  rw [value.eq_def, skipBlanks_cons (by decide)]
  rfl

lemma Gives.blanks {α : Type} {r : Reader α} {b text : List Char} {result : Option α}
    (h : Gives r text result) (hb : ∀ s, r (b ++ s) = r s) : Gives r (b ++ text) result := by
  intro rest hr
  rw [List.append_assoc, hb]
  exact h rest hr

lemma value_arr (l : Layout) {items : List Value} (hf : ∀ v ∈ items, v.FloatFree)
    (h : ∀ v ∈ items, ∀ depth level,
      Gives (value depth) (v.spelled l level) (if v.nesting ≤ depth then some v else none))
    (depth level : Nat) :
    Gives (value depth) ((Value.arr items).spelled l level)
      (if (Value.arr items).nesting ≤ depth then some (.arr items) else none) := by
  intro rest _
  obtain ⟨text, ht⟩ : ∃ text, (Value.arr items).spelled l level = '[' :: text := by
    cases items <;> exact ⟨_, rfl⟩
  rw [ht, List.cons_append, value_list]
  cases depth with
  | zero => simp [Value.nesting]
  | succ depth =>
    have hne : ∀ v ∈ items, ∀ x, id v ≠ .float x := by
      rintro v hv x rfl
      cases hf _ hv
    have hl := list_spelled l level (value depth) id
      (fun v => if v.nesting ≤ depth then some v else none) items rest (by rwa [List.map_id]) hne fun v hv =>
        (h v hv depth (level + 1)).blanks (value_blanks (l.gap_blank _) depth)
    simp only [hl, mapM_ite, Value.nesting_arr_le_iff]
    split <;> rfl

lemma value_obj (l : Layout) {fields : Fields} (hs : fields.Sorted)
    (h : ∀ f ∈ fields, ∀ depth level,
      Gives (value depth) (f.2.spelled l level) (if f.2.nesting ≤ depth then some f.2 else none))
    (depth level : Nat) :
    Gives (value depth) ((Value.obj fields).spelled l level)
      (if (Value.obj fields).nesting ≤ depth then some (.obj fields) else none) := by
  intro rest _
  obtain ⟨text, ht⟩ : ∃ text, (Value.obj fields).spelled l level = '{' :: text := by
    cases fields <;> exact ⟨_, rfl⟩
  rw [ht, List.cons_append, value_object]
  cases depth with
  | zero => simp [Value.nesting]
  | succ depth =>
    have ho := object_spelled l level
      (fun fields name s => (value depth s).map fun (v, rest) => (Fields.insert name v fields, rest))
      id (fun fs f => if f.2.nesting ≤ depth then some (Fields.insert f.1 f.2 fs) else none) fields rest
      (by rwa [List.map_id])
      (by
        intro f hf fs rest hr
        have hv := (h f hf depth (level + 1)).blanks (value_blanks l.pad_blank depth) rest hr
        simp only [id_eq, hv]
        split <;> rfl)
      []
    have hi := Fields.foldlM_insert (fun v => v.nesting ≤ depth) [] hs
    simp only [ho, hi, Value.nesting_obj_le_iff, List.nil_append]
    split <;> rfl

lemma value_spelled (l : Layout) {v : Value} (hv : v.Canonical) (hf : v.FloatFree) (depth level : Nat) :
    Gives (value depth) (v.spelled l level) (if v.nesting ≤ depth then some v else none) := by
  induction hv generalizing depth level with
  | null =>
    intro rest _
    simp [Value.nesting, Value.spelled, Value.compactChars, value.eq_def, skipBlanks, isBlank]
  | bool b =>
    intro rest _
    cases b <;> simp [Value.nesting, Value.spelled, Value.compactChars, value.eq_def, skipBlanks, isBlank]
  | @int n hn =>
    intro rest hr
    have ht := number_text hn hr
    obtain ⟨c, cs, hc, hd⟩ := Numeral.text_eq_cons n
    change value depth (Numeral.text n ++ rest) = _
    rw [hc, List.cons_append] at ht ⊢
    rw [value_sign hd, ht]
    simp [Value.nesting]
  | float x => cases hf
  | str s =>
    intro rest _
    simp [Value.nesting, Value.spelled, Value.compactChars, Quoted.quote, value.eq_def, skipBlanks, isBlank,
      chars_flatMap_escape]
  | arr _ ih =>
    cases hf with
    | arr hf => exact value_arr l hf (fun v hv => ih v hv (hf v hv)) depth level
  | obj hs _ ih =>
    cases hf with
    | obj hf => exact value_obj l hs (fun f hm => ih f hm (hf f hm)) depth level

end Reader

end Dialogue
