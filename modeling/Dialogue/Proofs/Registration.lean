import Dialogue.Proofs.Registry

/-! Registration does not depend on its order: it goes well just if no two scripts that can be called share a
name, and then it binds just these scripts. -/

namespace Dialogue

variable {κ : Kinds}

namespace Playbook

variable (book : Playbook κ)

def ReachedFrom (roots : List ScriptId) (i : ScriptId) : Prop := ∃ root ∈ roots, book.Reaches root i

def Distinct (among : ScriptId → Prop) : Prop :=
  ∀ i j, among i → among j → (book.script i).name = (book.script j).name → i = j

variable {book} {roots : List ScriptId} {i j : ScriptId}

lemma ReachedFrom.calls (h : book.ReachedFrom roots i) (hc : book.Calls i j) : book.ReachedFrom roots j := by
  obtain ⟨root, hm, hr⟩ := h
  exact ⟨root, hm, hr.tail hc⟩

end Playbook

namespace Registry

variable (book : Playbook κ)

def registerAll : List ScriptId → Registry → Registry × List (Option RegistryError)
  | [], r => (r, [])
  | i :: rest, r =>
    ((registerAll rest (register book r i).1).1,
      (register book r i).2 :: (registerAll rest (register book r i).1).2)

def filled (roots : List ScriptId) : Registry := (registerAll book roots {}).1

def AllRegister (roots : List ScriptId) : Prop := ∀ e ∈ (registerAll book roots {}).2, e = none

structure Faithful (among : ScriptId → Prop) (r : Registry) : Prop where
  nodup : (r.entries.map Prod.fst).Nodup
  own : ∀ e ∈ r.entries, e.1 = (book.script e.2).name ∧ among e.2

variable {book} {among : ScriptId → Prop} {r : Registry} {i : ScriptId} {name : String}
  {roots roots' done pending : List ScriptId}

lemma mem_of_find? (h : r.find? name = some i) : (name, i) ∈ r.entries := by
  obtain ⟨l₁, l₂, hl, -⟩ := List.lookup_eq_some_iff.mp h
  simp [hl]

lemma not_mem_of_find? (h : r.find? name = none) : name ∉ r.entries.map Prod.fst := by
  intro hm
  obtain ⟨e, he, rfl⟩ := List.mem_map.mp hm
  simpa using List.lookup_eq_none_iff.mp h e he

lemma Faithful.find?_iff (h : r.Faithful book among) :
    r.find? name = some i ↔ (name, i) ∈ r.entries := by
  refine ⟨mem_of_find?, fun hm => ?_⟩
  cases hf : r.find? name with
  | none => exact absurd (List.mem_map_of_mem hm) (not_mem_of_find? hf)
  | some j =>
    have he := List.inj_on_of_nodup_map h.nodup (mem_of_find? hf) hm rfl
    rw [(Prod.mk.inj he).2]

lemma Faithful.bind (h : r.Faithful book among) (hn : r.find? (book.script i).name = none) (hi : among i) :
    (r.bind (book.script i).name i).Faithful book among where
  nodup := List.nodup_cons.mpr ⟨not_mem_of_find? hn, h.nodup⟩
  own := List.forall_mem_cons.mpr ⟨⟨rfl, hi⟩, h.own⟩

lemma enrol_faithful (hc : ∀ i j, among i → book.Calls i j → among j) (hp : ∀ i ∈ pending, among i)
    (h : r.Faithful book among) :
    (enrol book pending r).1.Faithful book among ∧
      (book.Distinct among → (enrol book pending r).2 = none) := by
  fun_induction enrol book pending r with
  | case1 r => exact ⟨h, fun _ => rfl⟩
  | case2 pending r i hf ih => exact ih (List.forall_mem_cons.mp hp).2 h
  | case3 i pending r j hf hne =>
    refine ⟨h, fun hd => ?_⟩
    -- The script that has the name already was come to before, so it would have to be the same.
    obtain ⟨hn, hj⟩ := h.own _ (mem_of_find? hf)
    exact absurd (hd j i hj (hp i List.mem_cons_self) hn.symm) hne
  | case4 i pending r hn ih =>
    obtain ⟨hi, hrest⟩ := List.forall_mem_cons.mp hp
    refine ih (fun j hj => ?_) (h.bind hn hi)
    rcases List.mem_append.mp hj with hj | hj
    · exact hc i j hi (List.mem_reverse.mp hj)
    · exact hrest j hj

lemma registerAll_faithful (hc : ∀ i j, among i → book.Calls i j → among j) (hr : ∀ i ∈ roots, among i)
    (h : r.Faithful book among) :
    (registerAll book roots r).1.Faithful book among ∧
      (book.Distinct among → ∀ e ∈ (registerAll book roots r).2, e = none) := by
  induction roots generalizing r with
  | nil => exact ⟨h, by simp [registerAll]⟩
  | cons i rest ih =>
    obtain ⟨hi, hrest⟩ := List.forall_mem_cons.mp hr
    obtain ⟨h₁, he⟩ := enrol_faithful hc (List.forall_mem_singleton.mpr hi) h
    obtain ⟨h₂, hes⟩ := ih hrest h₁
    exact ⟨h₂, fun hd => List.forall_mem_cons.mpr ⟨he hd, hes hd⟩⟩

lemma filled_faithful : (filled book roots).Faithful book (book.ReachedFrom roots) ∧
    (book.Distinct (book.ReachedFrom roots) → AllRegister book roots) := by
  apply registerAll_faithful
  · intro i j hi hc
    exact hi.calls hc
  · intro i hi
    exact ⟨i, hi, .refl⟩
  · exact ⟨List.nodup_nil, by simp⟩

lemma registered_registerAll (hd : Registered book done r)
    (h : ∀ e ∈ (registerAll book roots r).2, e = none) :
    Registered book (roots.reverse ++ done) (registerAll book roots r).1 := by
  induction roots generalizing r done with
  | nil => exact hd
  | cons i rest ih =>
    obtain ⟨he, hes⟩ := List.forall_mem_cons.mp h
    have h₁ : Registered book (i :: done) (register book r i).1 := .register hd (Prod.ext rfl he)
    rw [List.reverse_cons, List.append_assoc]
    exact ih h₁ hes

lemma AllRegister.binds (h : AllRegister book roots) (hi : book.ReachedFrom roots i) :
    (filled book roots).Binds book i := by
  obtain ⟨root, hm, hr⟩ := hi
  have hg : Registered book (roots.reverse ++ []) (filled book roots) := registered_registerAll .empty h
  exact hg.binds_of_reaches (by simpa using hm) hr

lemma allRegister_iff : AllRegister book roots ↔ book.Distinct (book.ReachedFrom roots) := by
  refine ⟨fun h i j hi hj hn => ?_, filled_faithful.2⟩
  have hb := h.binds hj
  rw [Binds, ← hn, h.binds hi] at hb
  exact Option.some.inj hb

lemma AllRegister.find?_iff (h : AllRegister book roots) :
    (filled book roots).find? name = some i ↔ book.ReachedFrom roots i ∧ (book.script i).name = name := by
  constructor
  · intro hf
    obtain ⟨hn, hi⟩ := filled_faithful.1.own _ (mem_of_find? hf)
    exact ⟨hi, hn.symm⟩
  · rintro ⟨hi, rfl⟩
    exact h.binds hi

theorem registration_order_free (book : Playbook κ) (roots : List ScriptId) :
    (AllRegister book roots ↔ ∀ i j, book.ReachedFrom roots i → book.ReachedFrom roots j →
      (book.script i).name = (book.script j).name → i = j) ∧
    (AllRegister book roots → ∀ name i, (filled book roots).find? name = some i ↔
      book.ReachedFrom roots i ∧ (book.script i).name = name) ∧
    ∀ roots', (∀ i, i ∈ roots' ↔ i ∈ roots) →
      (AllRegister book roots' ↔ AllRegister book roots) ∧
      (AllRegister book roots → (filled book roots').entries.Perm (filled book roots).entries ∧
        ∀ name, (filled book roots').find? name = (filled book roots).find? name) := by
  refine ⟨allRegister_iff, fun h name i => h.find?_iff, fun roots' hm => ?_⟩
  have hreach : book.ReachedFrom roots' = book.ReachedFrom roots := by
    funext i
    simp only [Playbook.ReachedFrom, hm]
  have hall : AllRegister book roots' ↔ AllRegister book roots := by
    rw [allRegister_iff, allRegister_iff, hreach]
  refine ⟨hall, fun h => ?_⟩
  have hfind : ∀ name i, (filled book roots').find? name = some i ↔ (filled book roots).find? name = some i := by
    intro name i
    rw [(hall.mpr h).find?_iff, h.find?_iff, hreach]
  have hf' : (filled book roots').Faithful book (book.ReachedFrom roots') := filled_faithful.1
  have hf : (filled book roots).Faithful book (book.ReachedFrom roots) := filled_faithful.1
  refine ⟨?_, fun name => Option.ext fun i => hfind name i⟩
  -- Names are bound once, so the entries are those that can be found.
  apply (List.perm_ext_iff_of_nodup (hf'.nodup.of_map _) (hf.nodup.of_map _)).mpr
  rintro ⟨name, i⟩
  rw [← hf'.find?_iff, ← hf.find?_iff, hfind]

end Registry

end Dialogue
