import Dialogue.Proofs.Json.Scalar

/-! Lists and objects are read back part by part, wherever blanks stand between the parts. A part that cannot
be read makes the whole unreadable. -/

namespace Dialogue

structure Layout where
  gap : Nat → List Char
  pad : List Char
  gap_blank : ∀ level, ∀ c ∈ gap level, Reader.isBlank c = true
  pad_blank : ∀ c ∈ pad, Reader.isBlank c = true

def Layout.indented : Layout where
  gap := Value.newline
  pad := [' ']
  gap_blank := by
    intro level c hc
    rcases List.mem_cons.mp hc with rfl | hc
    · rfl
    · rw [List.eq_of_mem_replicate hc]
      rfl
  pad_blank := by
    intro c hc
    rw [List.mem_singleton.mp hc]
    rfl

lemma Layout.gapless_blank (_ : Nat) : ∀ c ∈ ([] : List Char), Reader.isBlank c = true := by simp

def Layout.compact : Layout where
  gap _ := []
  pad := []
  gap_blank := gapless_blank
  pad_blank := gapless_blank 0

namespace Value

mutual

def spelled (l : Layout) (level : Nat) : Value → List Char
  | arr [] => ['[', ']']
  | arr (v :: rest) => '[' :: (l.gap (level + 1) ++ (spelled l (level + 1) v ++ spelledItems l level rest))
  | obj [] => ['{', '}']
  | obj ((name, v) :: rest) =>
    '{' :: (l.gap (level + 1) ++ (Quoted.quote name ++
      ':' :: (l.pad ++ (spelled l (level + 1) v ++ spelledFields l level rest))))
  | v => compactChars v

def spelledItems (l : Layout) (level : Nat) : List Value → List Char
  | [] => l.gap level ++ [']']
  | v :: rest => ',' :: (l.gap (level + 1) ++ (spelled l (level + 1) v ++ spelledItems l level rest))

def spelledFields (l : Layout) (level : Nat) : List (String × Value) → List Char
  | [] => l.gap level ++ ['}']
  | (name, v) :: rest =>
    ',' :: (l.gap (level + 1) ++ (Quoted.quote name ++
      ':' :: (l.pad ++ (spelled l (level + 1) v ++ spelledFields l level rest))))

end

mutual

lemma prettyChars_eq (level : Nat) (v : Value) : prettyChars level v = spelled .indented level v := by
  cases v with
  | arr items =>
    cases items with
    | nil => rfl
    | cons v rest =>
      rw [prettyChars, spelled, prettyChars_eq (level + 1) v, prettyItems_eq level rest]
      rfl
  | obj fields =>
    cases fields with
    | nil => rfl
    | cons field rest =>
      rw [prettyChars, spelled, prettyChars_eq (level + 1) field.2, prettyFields_eq level rest]
      rfl
  | bool b => cases b <;> rfl
  | _ => rfl

lemma prettyItems_eq (level : Nat) (vs : List Value) :
    prettyItems level vs = spelledItems .indented level vs := by
  cases vs with
  | nil => rfl
  | cons v rest =>
    rw [prettyItems, spelledItems, prettyChars_eq (level + 1) v, prettyItems_eq level rest]
    rfl

lemma prettyFields_eq (level : Nat) (fs : List (String × Value)) :
    prettyFields level fs = spelledFields .indented level fs := by
  cases fs with
  | nil => rfl
  | cons f rest =>
    rw [prettyFields, spelledFields, prettyChars_eq (level + 1) f.2, prettyFields_eq level rest]
    rfl

end

mutual

lemma compactChars_eq (level : Nat) (v : Value) : compactChars v = spelled .compact level v := by
  cases v with
  | arr items =>
    cases items with
    | nil => rfl
    | cons v rest =>
      rw [compactChars, spelled, compactChars_eq (level + 1) v, compactItems_eq level rest]
      rfl
  | obj fields =>
    cases fields with
    | nil => rfl
    | cons field rest =>
      rw [compactChars, spelled, compactChars_eq (level + 1) field.2, compactFields_eq level rest]
      rfl
  | _ => rfl

lemma compactItems_eq (level : Nat) (vs : List Value) : compactItems vs = spelledItems .compact level vs := by
  cases vs with
  | nil => rfl
  | cons v rest =>
    rw [compactItems, spelledItems, compactChars_eq (level + 1) v, compactItems_eq level rest]
    rfl

lemma compactFields_eq (level : Nat) (fs : List (String × Value)) :
    compactFields fs = spelledFields .compact level fs := by
  cases fs with
  | nil => rfl
  | cons f rest =>
    rw [compactFields, spelledFields, compactChars_eq (level + 1) f.2, compactFields_eq level rest]
    rfl

end

end Value

namespace Reader

variable {α ι σ : Type}

lemma skipBlanks_append {b : List Char} (hb : ∀ c ∈ b, isBlank c = true) (s : List Char) :
    skipBlanks (b ++ s) = skipBlanks s :=
  List.dropWhile_append_of_pos hb

lemma skipBlanks_cons {c : Char} (hc : isBlank c = false) (s : List Char) :
    skipBlanks (c :: s) = c :: s := by
  simp [skipBlanks, hc]

lemma delimited_gap {b : List Char} (hb : ∀ c ∈ b, isBlank c = true) {rest : List Char}
    (h : Delimited rest) : Delimited (b ++ rest) := by
  cases b with
  | nil => exact h
  | cons c b =>
    refine delimited_cons _ ?_
    have hc := hb c List.mem_cons_self
    simp only [isBlank, Bool.or_eq_true, decide_eq_true_eq] at hc
    rcases hc with ((rfl | rfl) | rfl) | rfl <;> decide

lemma delimited_items (l : Layout) (level : Nat) (vs : List Value) (rest : List Char) :
    Delimited (Value.spelledItems l level vs ++ rest) := by
  cases vs with
  | nil =>
    rw [Value.spelledItems, List.append_assoc]
    exact delimited_gap (l.gap_blank level) (delimited_cons rest (by decide))
  | cons v vs => exact delimited_cons _ (by decide)

lemma delimited_fields (l : Layout) (level : Nat) (fs : Fields) (rest : List Char) :
    Delimited (Value.spelledFields l level fs ++ rest) := by
  cases fs with
  | nil =>
    rw [Value.spelledFields, List.append_assoc]
    exact delimited_gap (l.gap_blank level) (delimited_cons rest (by decide))
  | cons f fs => exact delimited_cons _ (by decide)

lemma length_lt_spelledItems (l : Layout) (level : Nat) (vs : List Value) :
    vs.length < (Value.spelledItems l level vs).length := by
  induction vs with
  | nil => simp [Value.spelledItems]
  | cons v vs ih =>
    simp only [Value.spelledItems, List.length_cons, List.length_append]
    omega

lemma length_lt_spelledFields (l : Layout) (level : Nat) (fs : Fields) :
    fs.length < (Value.spelledFields l level fs).length := by
  induction fs with
  | nil => simp [Value.spelledFields]
  | cons f fs ih =>
    simp only [Value.spelledFields, List.length_cons, List.length_append]
    omega

lemma spelled_eq_cons (l : Layout) (level : Nat) {v : Value} (hv : ∀ x, v ≠ .float x) :
    ∃ c cs, v.spelled l level = c :: cs ∧ isBlank c = false ∧ c ≠ ']' := by
  cases v with
  | null => exact ⟨_, _, rfl, by decide⟩
  | bool b => cases b <;> exact ⟨_, _, rfl, by decide⟩
  | int n =>
    obtain ⟨c, cs, hc, hd⟩ := Numeral.text_eq_cons n
    exact ⟨c, cs, hc, isBlank_sign hd, sign_ne hd (by decide) (by decide)⟩
  | float x => exact absurd rfl (hv x)
  | str s => exact ⟨_, _, rfl, by decide⟩
  | arr items => cases items <;> exact ⟨_, _, rfl, by decide⟩
  | obj fields => cases fields <;> exact ⟨_, _, rfl, by decide⟩

def Gives (r : Reader α) (text : List Char) (result : Option α) : Prop :=
  ∀ rest, Delimited rest → r (text ++ rest) = result.map (·, rest)

lemma items_spelled (l : Layout) (level : Nat) {item : Reader α} (f : ι → Value) (result : ι → Option α)
    (x : ι) (xs : List ι) (rest : List Char)
    (h : ∀ y ∈ x :: xs, Gives item (l.gap (level + 1) ++ (f y).spelled l (level + 1)) (result y))
    {fuel : Nat} (hf : xs.length < fuel) (acc : List α) :
    items item fuel acc (l.gap (level + 1) ++ ((f x).spelled l (level + 1) ++
        (Value.spelledItems l level (xs.map f) ++ rest))) =
      ((x :: xs).mapM result).map fun as => (acc.reverse ++ as, rest) := by
  induction xs generalizing x acc fuel with
  | nil =>
    obtain ⟨fuel, rfl⟩ := Nat.exists_eq_add_of_lt hf
    have hx := h x List.mem_cons_self _ (delimited_items l level [] rest)
    have hs : skipBlanks (Value.spelledItems l level [] ++ rest) = ']' :: rest := by
      rw [Value.spelledItems, List.append_assoc, skipBlanks_append (l.gap_blank level)]
      rfl
    rw [List.append_assoc] at hx
    rw [List.map_nil, items, hx]
    cases hr : result x with
    | none => simp [hr]
    | some a => simp [hr, hs]
  | cons y ys ih =>
    obtain ⟨fuel, rfl⟩ := Nat.exists_eq_add_of_lt hf
    have hx := h x List.mem_cons_self _ (delimited_items l level (f y :: ys.map f) rest)
    have hs : skipBlanks (Value.spelledItems l level (f y :: ys.map f) ++ rest) =
        ',' :: (l.gap (level + 1) ++ ((f y).spelled l (level + 1) ++
          (Value.spelledItems l level (ys.map f) ++ rest))) := by
      simp only [Value.spelledItems, List.cons_append, List.append_assoc]
      exact skipBlanks_cons (by decide) _
    rw [List.append_assoc] at hx
    rw [List.map_cons, items, hx, List.mapM_cons]
    cases hr : result x with
    | none => rfl
    | some a =>
      have hlt : ys.length < ys.length + 1 + fuel := by omega
      have hy := ih y (fun z hz => h z (List.mem_cons_of_mem x hz)) hlt (a :: acc)
      simp only [Option.map_some, hs, List.length_cons]
      rw [hy]
      cases (y :: ys).mapM result <;> simp

lemma list_spelled (l : Layout) (level : Nat) (item : Reader α) (f : ι → Value)
    (result : ι → Option α) (xs : List ι) (rest : List Char) {text : List Char}
    (ht : (Value.arr (xs.map f)).spelled l level = '[' :: text)
    (hx : ∀ y ∈ xs, ∀ x, f y ≠ .float x)
    (h : ∀ y ∈ xs, Gives item (l.gap (level + 1) ++ (f y).spelled l (level + 1)) (result y)) :
    list item (text ++ rest) = (xs.mapM result).map (·, rest) := by
  cases xs with
  | nil =>
    obtain rfl : [']'] = text := (List.cons.inj ht).2
    rfl
  | cons x xs =>
    obtain rfl := (List.cons.inj ht).2
    obtain ⟨c, cs, hc, hb, hne⟩ := spelled_eq_cons l (level + 1) (hx x List.mem_cons_self)
    have hs : skipBlanks (l.gap (level + 1) ++ ((f x).spelled l (level + 1) ++
        (Value.spelledItems l level (xs.map f) ++ rest))) =
        c :: (cs ++ (Value.spelledItems l level (xs.map f) ++ rest)) := by
      rw [skipBlanks_append (l.gap_blank _), hc]
      exact skipBlanks_cons hb _
    have hlen := length_lt_spelledItems l level (xs.map f)
    rw [List.length_map] at hlen
    simp only [List.append_assoc]
    rw [list, hs]
    split
    · next he => exact absurd (List.cons.inj he).1 hne
    · rw [items_spelled l level f result x xs rest h
        (by simp only [List.length_append]; omega) []]
      simp

lemma string_quote {b : List Char} (hb : ∀ c ∈ b, isBlank c = true) (name : String) (rest : List Char) :
    string (b ++ (Quoted.quote name ++ rest)) = some (name, rest) := by
  rw [string, skipBlanks_append hb, Quoted.quote, List.cons_append,
    skipBlanks_cons (by decide), List.append_assoc]
  simp [chars_flatMap_escape]

lemma members_spelled (l : Layout) (level : Nat) (member : σ → String → Reader σ)
    (f : ι → String × Value) (step : σ → ι → Option σ) (x : ι) (xs : List ι) (rest : List Char)
    (h : ∀ y ∈ x :: xs, ∀ state,
      Gives (member state (f y).1) (l.pad ++ (f y).2.spelled l (level + 1)) (step state y))
    {fuel : Nat} (hf : xs.length < fuel) (state : σ) :
    members member fuel state (l.gap (level + 1) ++ (Quoted.quote (f x).1 ++ ':' :: (l.pad ++
        ((f x).2.spelled l (level + 1) ++ (Value.spelledFields l level (xs.map f) ++ rest))))) =
      ((x :: xs).foldlM step state).map (·, rest) := by
  induction xs generalizing x state fuel with
  | nil =>
    obtain ⟨fuel, rfl⟩ := Nat.exists_eq_add_of_lt hf
    have hm := h x List.mem_cons_self state _ (delimited_fields l level [] rest)
    have hs : skipBlanks (Value.spelledFields l level [] ++ rest) = '}' :: rest := by
      rw [Value.spelledFields, List.append_assoc, skipBlanks_append (l.gap_blank level)]
      rfl
    rw [List.append_assoc] at hm
    rw [List.map_nil, members, string_quote (l.gap_blank _)]
    simp only [skipBlanks_cons (c := ':') (by decide), hm]
    cases hr : step state x with
    | none => simp [hr]
    | some state' => simp [hr, hs]
  | cons y ys ih =>
    obtain ⟨fuel, rfl⟩ := Nat.exists_eq_add_of_lt hf
    have hm := h x List.mem_cons_self state _ (delimited_fields l level (f y :: ys.map f) rest)
    have hs : skipBlanks (Value.spelledFields l level (f y :: ys.map f) ++ rest) =
        ',' :: (l.gap (level + 1) ++ (Quoted.quote (f y).1 ++ ':' :: (l.pad ++
          ((f y).2.spelled l (level + 1) ++ (Value.spelledFields l level (ys.map f) ++ rest))))) := by
      simp only [Value.spelledFields, List.cons_append, List.append_assoc]
      exact skipBlanks_cons (by decide) _
    rw [List.append_assoc] at hm
    rw [List.map_cons, members, string_quote (l.gap_blank _), List.foldlM_cons]
    simp only [skipBlanks_cons (c := ':') (by decide), hm]
    cases hr : step state x with
    | none => rfl
    | some state' =>
      simp only [Option.map_some, hs, List.length_cons]
      exact ih y (fun z hz => h z (List.mem_cons_of_mem x hz)) (by omega) state'

lemma object_spelled (l : Layout) (level : Nat) (member : σ → String → Reader σ)
    (f : ι → String × Value) (step : σ → ι → Option σ) (xs : List ι) (rest : List Char)
    {text : List Char} (ht : (Value.obj (xs.map f)).spelled l level = '{' :: text)
    (h : ∀ y ∈ xs, ∀ state,
      Gives (member state (f y).1) (l.pad ++ (f y).2.spelled l (level + 1)) (step state y))
    (state : σ) : object member state (text ++ rest) = (xs.foldlM step state).map (·, rest) := by
  cases xs with
  | nil =>
    obtain rfl : ['}'] = text := (List.cons.inj ht).2
    rfl
  | cons x xs =>
    obtain rfl := (List.cons.inj ht).2
    have hs : skipBlanks (l.gap (level + 1) ++ (Quoted.quote (f x).1 ++ ':' :: (l.pad ++
        ((f x).2.spelled l (level + 1) ++ (Value.spelledFields l level (xs.map f) ++ rest))))) =
        '"' :: (((f x).1.toList.flatMap Quoted.escape ++ ['"']) ++ ':' :: (l.pad ++
        ((f x).2.spelled l (level + 1) ++ (Value.spelledFields l level (xs.map f) ++ rest)))) := by
      rw [skipBlanks_append (l.gap_blank _)]
      exact skipBlanks_cons (by decide) _
    have hlen := length_lt_spelledFields l level (xs.map f)
    rw [List.length_map] at hlen
    simp only [List.append_assoc, List.cons_append]
    rw [object, hs]
    split
    · next he => exact absurd (List.cons.inj he).1 (by decide)
    · exact members_spelled l level member f step x xs rest h
        (by simp only [List.length_append, List.length_cons]; omega) state

end Reader

end Dialogue
