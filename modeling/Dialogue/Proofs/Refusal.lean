import Dialogue.Proofs.Registration

/-! Registration that breaks off keeps what it has bound. A script that is bound may then lack some of the scripts
that it calls, but only if it reaches one that was refused because its name belongs to another script. -/

namespace Dialogue

variable {κ : Kinds}

namespace Registry

variable (book : Playbook κ)

def Taken (r : Registry) (i : ScriptId) : Prop := ∃ j, r.find? (book.script i).name = some j ∧ j ≠ i

def Refused (r : Registry) (said : List (Option RegistryError)) (i : ScriptId) : Prop :=
  ∃ k, book.Reaches i k ∧ r.Taken book k ∧ some (.duplicateScript (book.script k).name) ∈ said

def Owes (r : Registry) (said : List (Option RegistryError)) (pending : List ScriptId) : Prop :=
  -- What a bound script calls is bound, or it waits, and then only for scripts that can be called as well.
  ∀ i, r.Binds book i → ∀ j, book.Calls i j → r.Binds book j ∨ r.Refused book said i ∨
    ∃ before after, pending = before ++ j :: after ∧ ∀ k ∈ before, book.Reaches i k

variable {book} {r : Registry} {said said' : List (Option RegistryError)} {i j : ScriptId}
  {pending calls : List ScriptId}

lemma not_binds_of_taken (h : r.Taken book i) : ¬ r.Binds book i := by
  obtain ⟨j, hj, hne⟩ := h
  intro hb
  rw [Binds, hj] at hb
  exact hne (Option.some.inj hb)

lemma Taken.bind (hn : r.find? (book.script i).name = none) (h : r.Taken book j) :
    (r.bind (book.script i).name i).Taken book j := by
  obtain ⟨k, hk, hne⟩ := h
  refine ⟨k, ?_, hne⟩
  have hname : (book.script j).name ≠ (book.script i).name := by
    intro he
    rw [he, hn] at hk
    cases hk
  have hb : ((book.script j).name == (book.script i).name) = false := by simpa using hname
  simpa [find?, Registry.bind, List.lookup_cons, hb] using! hk

lemma Refused.mono (hs : said ⊆ said') (h : r.Refused book said i) : r.Refused book said' i := by
  obtain ⟨k, hr, ht, hm⟩ := h
  exact ⟨k, hr, ht, hs hm⟩

lemma Refused.bind (hn : r.find? (book.script j).name = none) (h : r.Refused book said i) :
    (r.bind (book.script j).name j).Refused book said i := by
  obtain ⟨k, hr, ht, hm⟩ := h
  exact ⟨k, hr, ht.bind hn, hm⟩

lemma Refused.of_reaches (hr : book.Reaches i j) (h : r.Refused book said j) : r.Refused book said i := by
  obtain ⟨k, hk, ht, hm⟩ := h
  exact ⟨k, hr.trans hk, ht, hm⟩

lemma Owes.mono (hs : said ⊆ said') (h : r.Owes book said pending) : r.Owes book said' pending := by
  intro i hi j hj
  rcases h i hi j hj with hb | hr | hw
  · exact .inl hb
  · exact .inr (.inl (hr.mono hs))
  · exact .inr (.inr hw)

lemma Owes.start (h : r.Owes book said []) (pending : List ScriptId) : r.Owes book said pending := by
  intro i hi j hj
  rcases h i hi j hj with hb | hr | ⟨before, after, he, -⟩
  · exact .inl hb
  · exact .inr (.inl hr)
  · simp at he

lemma Owes.of_binds (hi : r.Binds book i) (h : r.Owes book said (i :: pending)) :
    r.Owes book said pending := by
  intro k hk j hj
  rcases h k hk j hj with hb | hr | ⟨before, after, he, hreach⟩
  · exact .inl hb
  · exact .inr (.inl hr)
  · cases before with
    | nil =>
      obtain ⟨rfl, rfl⟩ := List.cons.inj he
      exact .inl hi
    | cons c before =>
      obtain ⟨rfl, rfl⟩ := List.cons.inj he
      exact .inr (.inr ⟨before, after, rfl, (List.forall_mem_cons.mp hreach).2⟩)

lemma Owes.bind (hn : r.find? (book.script i).name = none) (h : r.Owes book said (i :: pending)) :
    (r.bind (book.script i).name i).Owes book said ((book.script i).callees.reverse ++ pending) := by
  have hcalls : ∀ k ∈ (book.script i).callees.reverse, book.Reaches i k := fun k hk =>
    .single (List.mem_reverse.mp hk)
  intro k hk j hj
  rcases binds_bind_cases hk with rfl | hk
  · obtain ⟨before, after, he⟩ := List.append_of_mem (List.mem_reverse.mpr hj)
    refine .inr (.inr ⟨before, after ++ pending, by rw [he]; simp, fun c hc => hcalls c ?_⟩)
    rw [he]
    exact List.mem_append_left _ hc
  rcases h k hk j hj with hb | hr | ⟨before, after, he, hreach⟩
  · exact .inl (hb.bind hn)
  · exact .inr (.inl (hr.bind hn))
  · cases before with
    | nil =>
      obtain ⟨rfl, rfl⟩ := List.cons.inj he
      exact .inl binds_bind_self
    -- What the new script calls goes before the rest, and who reaches the new script reaches that, too.
    | cons c before =>
      obtain ⟨rfl, rfl⟩ := List.cons.inj he
      obtain ⟨hi, hrest⟩ := List.forall_mem_cons.mp hreach
      refine .inr (.inr ⟨(book.script i).callees.reverse ++ before, after, by simp, fun c hc => ?_⟩)
      rcases List.mem_append.mp hc with hc | hc
      · exact hi.trans (hcalls c hc)
      · exact hrest c hc

lemma Owes.of_taken (ht : r.Taken book i) (h : r.Owes book said (i :: pending)) :
    r.Owes book (some (.duplicateScript (book.script i).name) :: said) [] := by
  intro k hk j hj
  rcases h k hk j hj with hb | hr | ⟨before, after, he, hreach⟩
  · exact .inl hb
  · exact .inr (.inl (hr.mono (List.subset_cons_self _ _)))
  · have hi : book.Reaches k i := by
      cases before with
      | nil =>
        obtain ⟨rfl, rfl⟩ := List.cons.inj he
        exact .single hj
      | cons c before =>
        obtain ⟨rfl, rfl⟩ := List.cons.inj he
        exact hreach _ List.mem_cons_self
    exact .inr (.inl ⟨i, hi, ht, List.mem_cons_self⟩)

lemma enrol_owes (h : r.Owes book said pending) :
    (enrol book pending r).1.Owes book ((enrol book pending r).2 :: said) [] := by
  fun_induction enrol book pending r with
  | case1 r => exact h.mono (List.subset_cons_self _ _)
  | case2 pending r i hf ih => exact ih (h.of_binds hf)
  | case3 i pending r j hf hne => exact h.of_taken ⟨j, hf, hne⟩
  | case4 i pending r hn ih => exact ih (h.bind hn)

variable (calls) in
lemma registerAll_owes (h : r.Owes book said []) :
    (registerAll book calls r).1.Owes book (said ++ (registerAll book calls r).2) [] := by
  induction calls generalizing r said with
  | nil => simpa [registerAll] using h
  | cons i calls ih =>
    apply (ih (enrol_owes (h.start [i]))).mono
    intro e he
    simpa [registerAll, register, or_assoc, or_left_comm] using he

lemma filled_owes : (filled book calls).Owes book (registerAll book calls {}).2 [] := by
  have h : Registry.Owes book {} [] [] := fun i hi => by simp [Binds, find?] at hi
  simpa using! registerAll_owes calls h

lemma Owes.binds_of_reaches (h : r.Owes book said []) (hi : r.Binds book i) (hn : ¬ r.Refused book said i)
    (hr : book.Reaches i j) : r.Binds book j := by
  induction hr with
  | refl => exact hi
  | @tail k j hk hj ih =>
    rcases h k ih j hj with hb | hf | ⟨before, after, he, -⟩
    · exact hb
    · exact absurd (hf.of_reaches hk) hn
    · simp at he

theorem register_binds_iff_unrefused (book : Playbook κ) (calls : List ScriptId) (i : ScriptId)
    (h : (register book (filled book calls) i).2 = none) :
    (∀ j, book.Reaches i j → (register book (filled book calls) i).1.Binds book j) ↔
      ¬ (register book (filled book calls) i).1.Refused book (registerAll book calls {}).2 i := by
  constructor
  · rintro hb ⟨k, hk, ht, -⟩
    exact not_binds_of_taken ht (hb k hk)
  · intro hn j hj
    have ho := enrol_owes (filled_owes.start [i] : (filled book calls).Owes book _ [i])
    have hi : (register book (filled book calls) i).1.Binds book i :=
      (enrol_ok (Prod.ext rfl h)).2.1 i List.mem_cons_self
    refine ho.binds_of_reaches hi (fun hr => hn ?_) hj
    obtain ⟨k, hk, ht, hm⟩ := hr
    refine ⟨k, hk, ht, ?_⟩
    rcases List.mem_cons.mp hm with he | hm
    · rw [show (enrol book [i] (filled book calls)).2 = none from h] at he
      cases he
    · exact hm

def namesakes : Playbook .common where
  scripts := [
    { Script.empty with name := "guide" },
    { Script.empty with name := "guide" },
    { name := "driver", commands := [.call "ask" 0 none none none], stops := ⟨[("ask", 0)]⟩, indexed := rfl },
    { name := "caller", commands := [.call "first" 2 none none none, .call "second" 1 none none none],
      stops := ⟨[("second", 1), ("first", 0)]⟩, indexed := rfl }]

lemma driver_reaches (h : namesakes.Reaches 2 j) : j = 2 ∨ j = 0 := by
  induction h with
  | refl => exact .inl rfl
  | tail _ hc ih =>
    rcases ih with rfl | rfl
    · exact .inr (List.mem_singleton.mp hc)
    · cases hc

theorem driver_binds_iff_unrefused :
    (registerAll namesakes [0, 3] {}).2 = [none, some (.duplicateScript "guide")] ∧
    (register namesakes (filled namesakes [0, 3]) 2).2 = none ∧ namesakes.Reaches 2 0 ∧
    ¬ (register namesakes (filled namesakes [0, 3]) 2).1.Refused namesakes (registerAll namesakes [0, 3] {}).2 2 ∧
    ∀ j, namesakes.Reaches 2 j → (register namesakes (filled namesakes [0, 3]) 2).1.Binds namesakes j := by
  have hs : (registerAll namesakes [0, 3] {}).2 = [none, some (.duplicateScript "guide")] := by cbv
  have hr : register namesakes (filled namesakes [0, 3]) 2 =
      (⟨[("driver", 2), ("caller", 3), ("guide", 0)]⟩, none) := by cbv
  have hn : ¬ (register namesakes (filled namesakes [0, 3]) 2).1.Refused namesakes
      (registerAll namesakes [0, 3] {}).2 2 := by
    rintro ⟨k, hk, ⟨j, hj, hne⟩, -⟩
    rw [hr] at hj
    rcases driver_reaches hk with rfl | rfl <;> exact hne (Option.some.inj hj).symm
  have hz : (register namesakes (filled namesakes [0, 3]) 2).2 = none := congrArg Prod.snd hr
  exact ⟨hs, hz, .single List.mem_cons_self, hn, (register_binds_iff_unrefused namesakes [0, 3] 2 hz).mpr hn⟩

theorem caller_passes_unbound :
    (register namesakes (filled namesakes [0, 3]) 3).2 = none ∧ namesakes.Reaches 3 2 ∧
    ¬ (register namesakes (filled namesakes [0, 3]) 3).1.Binds namesakes 2 := by
  have hr : register namesakes (filled namesakes [0, 3]) 3 = (⟨[("caller", 3), ("guide", 0)]⟩, none) := by cbv
  have hc : namesakes.Calls 3 2 := List.mem_cons_self
  refine ⟨congrArg Prod.snd hr, .single hc, ?_⟩
  have hn : (namesakes.script 2).name = "driver" := rfl
  rw [hr, Binds, hn]
  decide

end Registry

end Dialogue
