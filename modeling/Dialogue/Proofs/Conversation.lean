import Dialogue.Conversation
import Dialogue.Proofs.Json.Reading

/-! A stored conversation is read back from its text, unless the variables of some frame nest too deep. What is
read from any text does not nest so deep. -/

namespace Dialogue

namespace Reader

variable {α σ : Type} {fields : List (Field σ)}

structure Cell (σ : Type) where
  field : Field σ
  value : Value
  update : Option (σ → σ)

def Cell.of (name : String) (read : Reader α) (put : α → σ → σ) (value : Value) (x : Option α) : Cell σ :=
  ⟨.of name read put, value, x.map put⟩

def Cell.entry (c : Cell σ) : String × Value := (c.field.name, c.value)

def Cell.apply (draft : σ) (c : Cell σ) : Option σ := c.update.map (· draft)

lemma find?_name (hn : (fields.map Field.name).Nodup) {field : Field σ} (h : field ∈ fields) :
    fields.find? (·.name = field.name) = some field := by
  induction fields with
  | nil => cases h
  | cons f rest ih =>
    obtain ⟨hf, hr⟩ := List.nodup_cons.mp hn
    rcases List.mem_cons.mp h with rfl | h
    · simp
    · have hne : f.name ≠ field.name := fun he => hf (List.mem_map.mpr ⟨field, h, he.symm⟩)
      rw [List.find?_cons_of_neg (by simpa using hne)]
      exact ih hr h

def Cell.take (state : σ × List String) (c : Cell σ) : Option (σ × List String) :=
  if c.field.name ∈ state.2 then none
  else c.update.map fun update => (update state.1, c.field.name :: state.2)

lemma Cell.foldlM_take {cells : List (Cell σ)} (hn : (cells.map fun c => c.field.name).Nodup)
    (state : σ × List String) (hs : ∀ c ∈ cells, c.field.name ∉ state.2) :
    (cells.foldlM take state).map Prod.fst = cells.foldlM apply state.1 := by
  induction cells generalizing state with
  | nil => rfl
  | cons c cells ih =>
    obtain ⟨hc, hn⟩ := List.nodup_cons.mp hn
    obtain ⟨hcs, hs⟩ := List.forall_mem_cons.mp hs
    rw [List.foldlM_cons, List.foldlM_cons, take, apply, if_neg hcs]
    cases c.update with
    | none => rfl
    | some update =>
      refine ih hn (update state.1, c.field.name :: state.2) fun d hd => ?_
      rw [List.mem_cons, not_or]
      exact ⟨fun he => hc (List.mem_map.mpr ⟨d, hd, he⟩), hs d hd⟩

lemma known_gives (hn : (fields.map Field.name).Nodup) {c : Cell σ} (hc : c.field ∈ fields)
    {text : List Char} (h : Gives c.field.read text c.update) (state : σ × List String) :
    Gives (known fields state c.field.name) text (c.take state) := by
  intro rest hr
  rw [known, find?_name hn hc, Cell.take]
  by_cases hm : c.field.name ∈ state.2
  · simp [hm]
  · simp only [hm, if_false, h rest hr]
    cases c.update <;> rfl

lemma record_object {draft : σ} {finish : σ → Option α} (s : List Char) :
    record fields draft finish ('{' :: s) =
      match object (known fields) (draft, []) s with
      | none => none
      | some (state, rest) => (finish state.1).map (·, rest) := by
  rw [record, skipBlanks_cons (by decide)]
  rfl

lemma record_blanks {draft : σ} {finish : σ → Option α} {b : List Char}
    (hb : ∀ c ∈ b, isBlank c = true) (s : List Char) :
    record fields draft finish (b ++ s) = record fields draft finish s := by
  rw [record, record, skipBlanks_append hb]

lemma record_spelled (l : Layout) (level : Nat) (fields : List (Field σ)) (cells : List (Cell σ))
    (hn : (fields.map Field.name).Nodup) (hc : (cells.map Cell.field).Sublist fields)
    (h : ∀ c ∈ cells, Gives c.field.read (l.pad ++ c.value.spelled l (level + 1)) c.update)
    (draft : σ) (finish : σ → Option α) :
    Gives (record fields draft finish) ((Value.obj (cells.map Cell.entry)).spelled l level)
      ((cells.foldlM Cell.apply draft).bind finish) := by
  intro rest _
  obtain ⟨text, ht⟩ : ∃ text, (Value.obj (cells.map Cell.entry)).spelled l level = '{' :: text := by
    cases cells <;> exact ⟨_, rfl⟩
  have ho := object_spelled l level (known fields) Cell.entry Cell.take cells rest ht
    (fun c hm => known_gives hn (hc.subset (List.mem_map_of_mem hm)) (h c hm)) (draft, [])
  have hnames : (cells.map fun c => c.field.name).Nodup := by
    have hs := (hc.map Field.name).nodup hn
    rwa [List.map_map] at hs
  rw [ht, List.cons_append, record_object, ho, ← Cell.foldlM_take hnames (draft, []) (by simp)]
  cases cells.foldlM Cell.take (draft, []) <;> rfl

lemma Cell.of_gives {name : String} {read : Reader α} {put : α → σ → σ} {value : Value} {text : List Char}
    {x : Option α} (h : Gives read text x) :
    Gives (Cell.of name read put value x).field.read text (Cell.of name read put value x).update := by
  intro rest hr
  simp only [Cell.of, Field.of, h rest hr]
  cases x <;> rfl

lemma string_gives {b : List Char} (hb : ∀ c ∈ b, isBlank c = true) (l : Layout) (level : Nat)
    (s : String) : Gives string (b ++ (Value.str s).spelled l level) (some s) := by
  intro rest _
  rw [List.append_assoc]
  exact string_quote hb s rest

lemma optional_gives {b : List Char} (hb : ∀ c ∈ b, isBlank c = true) (l : Layout) (level : Nat)
    (s : String) : Gives (optional string) (b ++ (Value.str s).spelled l level) (some (some s)) := by
  intro rest hr
  have hs := string_gives hb l level s rest hr
  have hq : skipBlanks (b ++ (Value.str s).spelled l level ++ rest) =
      '"' :: (s.toList.flatMap Quoted.escape ++ ['"'] ++ rest) := by
    rw [List.append_assoc, skipBlanks_append hb]
    exact skipBlanks_cons (by decide) _
  rw [optional, hq, hs]
  rfl

lemma whole_gives {r : Reader α} {text : List Char} {x : Option α} (h : Gives r text x) :
    whole r (String.ofList text) = x := by
  have hr := h [] delimited_nil
  rw [List.append_nil] at hr
  rw [whole, String.toList_ofList, hr]
  cases x <;> rfl

lemma whole_eq_some {r : Reader α} {s : String} {a : α} (h : whole r s = some a) :
    ∃ rest, r s.toList = some (a, rest) := by
  rw [whole] at h
  split at h
  · cases h
  · next v rest hr =>
    split_ifs at h
    cases h
    exact ⟨rest, hr⟩

end Reader

open Reader

namespace Thread

def cells (t : Thread) : List (Cell Draft) := [
  .of "platform" string (fun x d => { d with platform := x }) (.str t.platform) (some t.platform),
  .of "uid" string (fun x d => { d with uid := x }) (.str t.uid) (some t.uid)]

lemma read_spelled (l : Layout) (level depth : Nat) (t : Thread) :
    Gives (read (depth + 1)) (t.toValue.spelled l level) (some t) := by
  refine record_spelled l level fields t.cells (by decide) (.refl _) ?_ {} Draft.finish?
  intro c hc
  have hs := string_gives l.pad_blank l (level + 1)
  simp only [cells, List.mem_cons, List.not_mem_nil, or_false] at hc
  rcases hc with rfl | rfl
  · exact Cell.of_gives (hs t.platform)
  · exact Cell.of_gives (hs t.uid)

end Thread

namespace Snapshot

def Storable (s : Snapshot) : Prop := s.vars.Canonical ∧ s.vars.FloatFree

def cells (depth : Nat) (s : Snapshot) : List (Cell Draft) := [
    .of "script" string (fun x d => { d with script := x }) (.str s.script) (some s.script),
    .of "vars" (value depth) (fun x d => { d with vars := x }) s.vars
      (if s.vars.nesting ≤ depth then some s.vars else none)] ++
  match s.stopAt with
  | none => []
  | some key => [
    .of "stop_at" (optional string) (fun x d => { d with stopAt := x }) (.str key) (some (some key))]

lemma read_spelled (l : Layout) (level depth : Nat) {s : Snapshot} (hs : s.Storable) :
    Gives (read (depth + 1)) (s.toValue.spelled l level)
      (if s.vars.nesting ≤ depth then some s else none) := by
  obtain ⟨hc, hf⟩ := hs
  have hstr := string_gives l.pad_blank l (level + 1)
  have hopt := optional_gives l.pad_blank l (level + 1)
  have hval := (value_spelled l hc hf depth (level + 1)).blanks (value_blanks l.pad_blank depth)
  have hr := record_spelled l level (fields depth) (s.cells depth)
    (show ["script", "vars", "stop_at"].Nodup by decide) ?_ ?_ {} Draft.finish?
  · have ht : s.toValue = .obj ((s.cells depth).map Cell.entry) := by
      rcases s with ⟨_, _, _ | _⟩ <;> rfl
    have hd : ((s.cells depth).foldlM Cell.apply {}).bind Draft.finish? =
        if s.vars.nesting ≤ depth then some s else none := by
      rcases s with ⟨script, vars, _ | key⟩ <;> by_cases hd : vars.nesting ≤ depth <;>
        simp [cells, Cell.of, Cell.apply, Draft.finish?, hd]
    rwa [ht, ← hd]
  · rcases s with ⟨script, vars, _ | key⟩
    · exact .cons_cons _ (.cons_cons _ (.cons _ .slnil))
    · exact .refl _
  · intro c hc
    rcases s with ⟨script, vars, _ | key⟩ <;>
      simp only [cells, List.cons_append, List.nil_append, List.mem_cons, List.not_mem_nil, or_false] at hc
    · rcases hc with rfl | rfl
      · exact Cell.of_gives (hstr script)
      · exact Cell.of_gives hval
    · rcases hc with rfl | rfl | rfl
      · exact Cell.of_gives (hstr script)
      · exact Cell.of_gives hval
      · exact Cell.of_gives (hopt key)

lemma readAll_blanks {b : List Char} (hb : ∀ c ∈ b, isBlank c = true) (depth : Nat) (s : List Char) :
    readAll depth (b ++ s) = readAll depth s := by
  cases depth with
  | zero => rfl
  | succ depth => simp only [readAll, skipBlanks_append hb]

lemma readAll_spelled (l : Layout) (level depth : Nat) {snapshots : List Snapshot}
    (hs : ∀ s ∈ snapshots, s.Storable) :
    Gives (readAll (depth + 2)) ((listValue snapshots).spelled l level)
      (if ∀ s ∈ snapshots, s.vars.nesting ≤ depth then some snapshots else none) := by
  intro rest _
  obtain ⟨text, ht⟩ : ∃ text, (listValue snapshots).spelled l level = '[' :: text := by
    cases snapshots <;> exact ⟨_, rfl⟩
  have hl := list_spelled l level (read (depth + 1)) toValue
    (fun s => if s.vars.nesting ≤ depth then some s else none) snapshots rest ht
    (by rintro s - x ⟨⟩)
    fun s hm => (read_spelled l (level + 1) depth (hs s hm)).blanks (record_blanks (l.gap_blank _))
  rw [ht, List.cons_append, readAll]
  simp only [skipBlanks_cons (c := '[') (by decide), hl, mapM_ite]

lemma parseAll?_compact {snapshots : List Snapshot} (hs : ∀ s ∈ snapshots, s.Storable) :
    parseAll? (listValue snapshots).compact =
      if ∀ s ∈ snapshots, s.vars.nesting ≤ 125 then some snapshots else none := by
  rw [parseAll?, Value.compact, Value.compactChars_eq 0]
  exact whole_gives (readAll_spelled .compact 0 125 hs)

lemma read_canonical {depth : Nat} {s rest : List Char} {snapshot : Snapshot}
    (h : read (depth + 1) s = some (snapshot, rest)) :
    snapshot.vars.Canonical ∧ snapshot.vars.nesting ≤ depth := by
  have hk : ∀ field ∈ fields depth,
      Keeps (fun d => ∀ v ∈ d.vars, v.Canonical ∧ v.nesting ≤ depth) field := by
    intro field hm
    simp only [fields, List.mem_cons, List.not_mem_nil, or_false] at hm
    rcases hm with rfl | rfl | rfl
    · exact keeps_of fun _ _ _ _ _ hd => hd
    · refine keeps_of fun s v rest hr d hd => ?_
      rintro _ ⟨⟩
      exact value_canonical hr
    · exact keeps_of fun _ _ _ _ _ hd => hd
  obtain ⟨⟨_ | script, _ | vars, stopAt⟩, hd, hf⟩ := record_invariant hk (by simp) h <;> cases hf
  exact hd _ rfl

lemma readAll_canonical {depth : Nat} {s rest : List Char} {snapshots : List Snapshot}
    (h : readAll (depth + 2) s = some (snapshots, rest)) :
    ∀ s ∈ snapshots, s.vars.Canonical ∧ s.vars.nesting ≤ depth := by
  simp only [readAll] at h
  split at h
  · exact list_forall (fun _ _ _ => read_canonical) h
  · cases h

end Snapshot

namespace Conversation

def cells (depth : Nat) (c : Conversation) : List (Cell Draft) := [
  .of "thread" (Thread.read (depth + 2)) (fun x d => { d with thread := x }) c.thread.toValue (some c.thread),
  .of "call_stack" (Snapshot.readAll (depth + 2)) (fun x d => { d with stack := x })
    (Snapshot.listValue c.stack)
    (if ∀ s ∈ c.stack, s.vars.nesting ≤ depth then some c.stack else none)]

lemma read_spelled (l : Layout) (level depth : Nat) {c : Conversation} (hs : ∀ s ∈ c.stack, s.Storable) :
    Gives (read (depth + 3)) (c.toValue.spelled l level)
      (if ∀ s ∈ c.stack, s.vars.nesting ≤ depth then some c else none) := by
  have hd : ((c.cells depth).foldlM Cell.apply {}).bind Draft.finish? =
      if ∀ s ∈ c.stack, s.vars.nesting ≤ depth then some c else none := by
    simp only [cells]
    split <;> rfl
  rw [← hd]
  refine record_spelled l level (fields (depth + 2)) (c.cells depth)
    (show ["thread", "call_stack"].Nodup by decide) (.refl _) ?_ {} Draft.finish?
  intro cell hc
  simp only [cells, List.mem_cons, List.not_mem_nil, or_false] at hc
  rcases hc with rfl | rfl
  · exact Cell.of_gives ((Thread.read_spelled l (level + 1) (depth + 1) c.thread).blanks
      (record_blanks l.pad_blank))
  · exact Cell.of_gives ((Snapshot.readAll_spelled l (level + 1) depth hs).blanks
      (Snapshot.readAll_blanks l.pad_blank _))

lemma parse?_text {c : Conversation} (hs : ∀ s ∈ c.stack, s.Storable) :
    parse? c.text = if ∀ s ∈ c.stack, s.vars.nesting ≤ 124 then some c else none := by
  rw [parse?, text, Value.pretty, Value.prettyChars_eq]
  exact whole_gives (read_spelled .indented 0 124 hs)

lemma read_canonical {depth : Nat} {s rest : List Char} {c : Conversation}
    (h : read (depth + 3) s = some (c, rest)) :
    ∀ s ∈ c.stack, s.vars.Canonical ∧ s.vars.nesting ≤ depth := by
  have hk : ∀ field ∈ fields (depth + 2),
      Keeps (fun d => ∀ ss ∈ d.stack, ∀ s ∈ ss, s.vars.Canonical ∧ s.vars.nesting ≤ depth) field := by
    intro field hm
    simp only [fields, List.mem_cons, List.not_mem_nil, or_false] at hm
    rcases hm with rfl | rfl
    · exact keeps_of fun _ _ _ _ _ hd => hd
    · refine keeps_of fun s ss rest hr d hd => ?_
      rintro _ ⟨⟩
      exact Snapshot.readAll_canonical hr
  obtain ⟨⟨_ | thread, _ | stack⟩, hd, hf⟩ := record_invariant hk (by simp) h <;> cases hf
  exact hd _ rfl

lemma parse?_canonical {text : String} {c : Conversation} (h : parse? text = some c) :
    ∀ s ∈ c.stack, s.vars.Canonical ∧ s.vars.nesting ≤ 124 := by
  obtain ⟨rest, hr⟩ := whole_eq_some h
  exact read_canonical hr

end Conversation

end Dialogue
