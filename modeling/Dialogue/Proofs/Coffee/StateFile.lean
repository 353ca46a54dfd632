import Dialogue.Proofs.Coffee.Storable
import Dialogue.Proofs.Conversation
import Dialogue.Proofs.Disk
import Dialogue.Proofs.Restoration

/-! A turn with the conversation in a file. It fails and leaves everything as it was, or it ends the conversation
and removes the file, or it writes a file from which the conversation comes back. -/

namespace Dialogue

variable {κ : Kinds}

lemma Turn.stack_of_finished {env : Env κ} {fuel : Nat} {stack : CallStack} {entry : Entry} {o : Outcome}
    {m : Machine} (h : play env fuel stack entry = some (.ok o m)) (ho : o.finished = true) :
    o.stack = none := by
  obtain ⟨m₀, m₁, status, yielded, -, -, rfl, -⟩ := play_eq_ok h
  cases status with
  | ended value => rfl
  | _ => cases ho

namespace Coffee

lemma registry_eq : registry = ⟨[("choose_drink", 0), ("take_order", 1)]⟩ := by
  have hr : Registry.register book {} root = (⟨[("choose_drink", 0), ("take_order", 1)]⟩, none) := by cbv
  exact congrArg Prod.fst hr

lemma registry_find {name : String} {i : ScriptId} (h : registry.find? name = some i) : i = 0 ∨ i = 1 := by
  have hm := Registry.mem_of_find? h
  rw [registry_eq] at hm
  simp only [List.mem_cons, Prod.mk.injEq, List.not_mem_nil, or_false] at hm
  exact hm.imp And.right And.right

lemma snapshots_fit {depth : Nat} {stack : CallStack} (h : ∀ f ∈ stack.frames, f.vars.Fit depth) :
    ∀ s ∈ stack.snapshots book, s.vars.Fit depth := by
  rw [CallStack.snapshots, List.forall_mem_map]
  exact fun f hf => h f (List.mem_reverse.mp hf)

section Files

variable {disk disk' : Disk} {path : String} {saved : Option Conversation} {c : Conversation} {text : String}

lemma load_absent (hl : disk.look path = none) : load path disk = .ok none disk := by
  rw [load, bind_get, hl]
  rfl

lemma load_folder (hl : disk.look path = some .folder) : load path disk = .error (.readState path) disk := by
  rw [load, bind_get, hl]
  rfl

lemma load_unparsed (hl : disk.look path = some (.file text)) (ht : Conversation.parse? text = none) :
    load path disk = .error (.parseState path) disk := by
  rw [load, bind_get, hl]
  simp only [ht]
  rfl

lemma load_parsed (hl : disk.look path = some (.file text)) (ht : Conversation.parse? text = some c) :
    load path disk = .ok (some c) disk := by
  rw [load, bind_get, hl]
  simp only [ht]
  rfl

lemma load_cases (path : String) (disk : Disk) : (∃ e, load path disk = .error e disk) ∨
    ∃ saved, load path disk = .ok saved disk ∧ disk.look path ≠ some .folder ∧
      ∀ c ∈ saved, ∀ s ∈ c.stack, s.vars.Canonical ∧ s.vars.nesting ≤ 124 := by
  cases hl : disk.look path with
  | none => exact .inr ⟨none, load_absent hl, by simp, by simp⟩
  | some node =>
    cases node with
    | folder => exact .inl ⟨_, load_folder hl⟩
    | file text =>
      cases ht : Conversation.parse? text with
      | none => exact .inl ⟨_, load_unparsed hl ht⟩
      | some c =>
        refine .inr ⟨some c, load_parsed hl ht, by simp, ?_⟩
        rintro _ ⟨⟩
        exact Conversation.parse?_canonical ht

lemma look_of_load (h : load path disk = .ok saved disk') : disk.look path ≠ some .folder := by
  intro hl
  rw [load_folder hl] at h
  cases h

lemma load_text (hl : disk.look path = some (.file c.text)) (hs : ∀ s ∈ c.stack, s.Storable) :
    load path disk =
      if ∀ s ∈ c.stack, s.vars.nesting ≤ 124 then .ok (some c) disk else .error (.parseState path) disk := by
  have ht := Conversation.parse?_text hs
  split_ifs at ht ⊢
  · exact load_parsed hl ht
  · exact load_unparsed hl ht

lemma load_file (hl : disk.look path = some (.file c.text)) (h : ∀ s ∈ c.stack, s.vars.Fit 124) :
    load path disk = .ok (some c) disk := by
  rw [load_text hl fun s hs => ⟨(h s hs).canonical, (h s hs).floatFree⟩]
  exact if_pos fun s hs => (h s hs).nesting_le

lemma save_unwritten (hw : disk.write? path c.text = none) : save path c disk = .error (.writeState path) disk := by
  rw [save, bind_get, hw]
  rfl

lemma save_written (hw : disk.write? path c.text = some disk') : save path c disk = .ok () disk' := by
  rw [save, bind_get, hw]
  rfl

lemma look_save (h : save path c disk = .ok () disk') : disk'.look path = some (.file c.text) := by
  cases hw : disk.write? path c.text with
  | none =>
    rw [save_unwritten hw] at h
    cases h
  | some written =>
    rw [save_written hw] at h
    cases h
    exact (Disk.look_write hw).1

theorem saved_reads_back :
    (∀ (c : Conversation) (disk disk' : Disk) (path : String), (∀ s ∈ c.stack, s.Storable) →
      save path c disk = .ok () disk' →
      load path disk' =
        if ∀ s ∈ c.stack, s.vars.nesting ≤ 124 then .ok (some c) disk' else .error (.parseState path) disk') ∧
    ∀ snapshots : List Snapshot, (∀ s ∈ snapshots, s.Storable) →
      Snapshot.parseAll? (Snapshot.listValue snapshots).compact =
        if ∀ s ∈ snapshots, s.vars.nesting ≤ 125 then some snapshots else none := by
  constructor
  · intro c disk disk' path hs h
    exact load_text (look_save h) hs
  · intro snapshots hs
    exact Snapshot.parseAll?_compact hs

def wrapped (levels : Nat) : Conversation where
  thread := ⟨"cli", "\"ann\"\n\x07"⟩
  stack := [
    ⟨"take_order", .obj [("max", .int (2 ^ 64 - 1)), ("none", .null)], none⟩,
    ⟨"choose_drink", (fun v => .arr [v])^[levels] .null, some "drink"⟩]

lemma iterate_arr_storable (levels : Nat) :
    ((fun v => .arr [v])^[levels] .null : Value).Canonical ∧
      ((fun v => .arr [v])^[levels] .null : Value).FloatFree ∧
      ((fun v => .arr [v])^[levels] .null : Value).nesting = levels := by
  induction levels with
  | zero => exact ⟨.null, .null, rfl⟩
  | succ levels ih =>
    obtain ⟨hc, hf, hn⟩ := ih
    rw [Function.iterate_succ_apply']
    refine ⟨.arr (by simpa using hc), .arr (by simpa using hf), ?_⟩
    simp [Value.nesting, Value.nestingItems, hn]

lemma wrapped_storable (levels : Nat) : ∀ s ∈ (wrapped levels).stack, s.Storable := by
  obtain ⟨hc, hf, -⟩ := iterate_arr_storable levels
  refine List.forall_mem_cons.mpr ⟨⟨.obj ?_ ?_, .obj ?_⟩, List.forall_mem_singleton.mpr ⟨hc, hf⟩⟩
  · exact List.pairwise_pair.mpr (by decide)
  · simp only [List.forall_mem_cons, List.not_mem_nil, false_implies, implies_true, and_true]
    exact ⟨.int (by constructor <;> omega), .null⟩
  · simp only [List.forall_mem_cons, List.not_mem_nil, false_implies, implies_true, and_true]
    exact ⟨.int _, .null⟩

lemma wrapped_nesting_le_iff {levels depth : Nat} :
    (∀ s ∈ (wrapped levels).stack, s.vars.nesting ≤ depth + 1) ↔ levels ≤ depth + 1 := by
  have hn := (iterate_arr_storable levels).2.2
  simp [wrapped, hn, Value.nesting, Value.nestingFields]

theorem wrapped_saved_reads_back :
    (∃ disk, save "state.json" (wrapped 124) {} = .ok () disk ∧
      load "state.json" disk = .ok (some (wrapped 124)) disk) ∧
    (∃ disk, save "state.json" (wrapped 125) {} = .ok () disk ∧
      load "state.json" disk = .error (.parseState "state.json") disk) ∧
    Snapshot.parseAll? (Snapshot.listValue (wrapped 125).stack).compact = some (wrapped 125).stack := by
  have hp : Disk.place? {} "state.json" = some ["state.json"] := by cbv
  have hn : Disk.node? {} ["state.json"] = none := by cbv
  have hw : ∀ c, save "state.json" c {} = .ok () (Disk.put {} ["state.json"] (.file c.text)) := by
    intro c
    exact save_written (by simp [Disk.write?, hp, hn])
  obtain ⟨hfile, hline⟩ := saved_reads_back
  refine ⟨⟨_, hw _, ?_⟩, ⟨_, hw _, ?_⟩, ?_⟩
  · rw [hfile _ _ _ _ (wrapped_storable 124) (hw _)]
    exact if_pos (wrapped_nesting_le_iff.mpr (by omega))
  · rw [hfile _ _ _ _ (wrapped_storable 125) (hw _)]
    exact if_neg fun h => by simpa using wrapped_nesting_le_iff.mp h
  · rw [hline _ (wrapped_storable 125)]
    exact if_pos (wrapped_nesting_le_iff.mpr (by omega))

lemma save_cases (h : disk.look path ≠ some .folder) (c : Conversation) :
    (disk.place? path = none ∧ save path c disk = .error (.writeState path) disk) ∨
      ∃ disk', save path c disk = .ok () disk' ∧ disk'.look path = some (.file c.text) ∧
        disk'.place? path = disk.place? path := by
  cases hp : disk.place? path with
  | none => exact .inl ⟨rfl, save_unwritten (by rw [Disk.write?, hp])⟩
  | some place =>
    right
    have hn : disk.node? place ≠ some .folder := by rwa [Disk.look, hp, Option.bind_some] at h
    have hw : disk.write? path c.text = some (disk.put place (.file c.text)) := by
      rw [Disk.write?, hp]
      exact if_neg hn
    obtain ⟨hl, hd⟩ := Disk.look_write hw
    exact ⟨_, save_written hw, hl, by rw [hd, hp]⟩

lemma discard_unless_folder (h : disk.look path ≠ some .folder) :
    ∃ disk', discard path disk = .ok () disk' ∧ disk'.look path = none ∧
      disk'.place? path = disk.place? path := by
  cases hl : disk.look path with
  | none =>
    refine ⟨disk, ?_, hl, rfl⟩
    rw [discard, bind_get, hl]
    rfl
  | some node =>
    cases node with
    | folder => exact absurd hl h
    | file text =>
      obtain ⟨place, hp, -⟩ := Option.bind_eq_some_iff.mp hl
      have hr : disk.remove? path = some ⟨disk.nodes.filter fun entry => entry.1 ≠ place⟩ := by
        rw [Disk.remove?, hp, hl]
      refine ⟨_, ?_, Disk.look_remove hr⟩
      rw [discard, bind_get, hl]
      simp only [bind_get, hr]
      rfl

end Files

section Turns

variable {limit : Option Nat} {input : Option String} {user : String} {thread : Thread} {stack : CallStack}
  {entry : Entry} {disk disk' : Disk} {path : String} {saved : Option Conversation} {o : Outcome}

inductive Opens (input : Option String) (user : String) :
    Option Conversation → Thread → CallStack → Entry → Prop
  | fresh : Opens input user none ⟨"cli", user⟩ (.root book root none) .fresh
  | resumed {c : Conversation} {stack : CallStack} : CallStack.restore registry c.stack = .ok stack →
      Opens input user (some c) c.thread stack (.resume (input.map ofInput))

inductive Fails (disk : Disk) (path : String) (limit : Option Nat) (input : Option String) (user : String) :
    Failure → Prop
  | unread {e : Failure} : load path disk = .error e disk → Fails disk path limit input user e
  | unknown {c : Conversation} {e : RegistryError} : load path disk = .ok (some c) disk →
      CallStack.restore registry c.stack = .error e → Fails disk path limit input user (.registry e)
  | run {saved : Option Conversation} {thread : Thread} {stack : CallStack} {entry : Entry} {e : RunError}
      {m : Machine} : load path disk = .ok saved disk → Opens input user saved thread stack entry →
      Turn.play (env limit thread) Turn.ample stack entry = some (.error e m) →
      Fails disk path limit input user (.run e)
  | unwritable : disk.place? path = none → Fails disk path limit input user (.writeState path)

lemma Opens.converse_eq (h : Opens input user saved thread stack entry) :
    converse limit saved input user = play limit thread stack entry := by
  cases h with
  | fresh => rfl
  | resumed hr => simp [converse, hr]

lemma Opens.stores (h : Opens input user saved thread stack entry) :
    Stores 124 (env limit thread) stack entry := by
  cases h with
  | fresh => exact fresh_stores
  | resumed hr =>
    refine resume_stores fun f hf => ?_
    obtain ⟨s, -, hs, -⟩ := CallStack.mem_of_restore hr f hf
    exact registry_find hs

lemma Opens.fit (h : Opens input user saved thread stack entry)
    (hc : ∀ c ∈ saved, ∀ s ∈ c.stack, s.vars.Canonical ∧ s.vars.nesting ≤ 124)
    (hf : ∀ c ∈ saved, ∀ s ∈ c.stack, s.vars.FloatFree) : ∀ f ∈ stack.frames, f.vars.Fit 124 := by
  cases h with
  | fresh => exact List.forall_mem_cons.mpr ⟨initVars_fit, by simp [CallStack.root]⟩
  | resumed hr =>
    intro f hm
    obtain ⟨s, hs, -, hv, -⟩ := CallStack.mem_of_restore hr f hm
    obtain ⟨hcs, hn⟩ := hc _ rfl s hs
    rw [hv]
    exact ⟨hcs, hf _ rfl s hs, hn⟩

lemma opens_or_unknown (input : Option String) (user : String) (saved : Option Conversation) :
    (∃ c e, saved = some c ∧ CallStack.restore registry c.stack = .error e) ∨
      ∃ thread stack entry, Opens input user saved thread stack entry := by
  cases saved with
  | none => exact .inr ⟨_, _, _, .fresh⟩
  | some c =>
    cases hr : CallStack.restore registry c.stack with
    | error e => exact .inl ⟨c, e, rfl, hr⟩
    | ok stack => exact .inr ⟨_, _, _, .resumed hr⟩

lemma play_cases {depth : Nat} (h : Stores depth (env limit thread) stack entry) :
    (∃ e m, Turn.play (env limit thread) Turn.ample stack entry = some (.error e m) ∧
      play limit thread stack entry = .error (.run e)) ∨
    ∃ o m, Turn.play (env limit thread) Turn.ample stack entry = some (.ok o m) ∧
      play limit thread stack entry = .ok (reply thread o) ∧
      ∀ stack', o.stack = some stack' → (∀ f ∈ stack.frames, f.vars.Fit depth) →
        ∀ f ∈ stack'.frames, f.vars.Fit depth := by
  obtain ⟨r, hr, hf⟩ := h
  obtain ⟨result, hp, rfl⟩ := Option.map_eq_some_iff.mp hr
  cases result with
  | error e m => exact .inl ⟨e, m, hp, by rw [play, hp]⟩
  | ok o m => exact .inr ⟨o, m, hp, by rw [play, hp], fun stack' hs => hf o stack' rfl hs⟩

lemma play_of_shown {o : Outcome}
    (h : (Turn.play (env limit thread) Turn.ample stack entry).map Turn.shown = some (.ok o)) :
    play limit thread stack entry = .ok (reply thread o) := by
  obtain ⟨result, hp, hr⟩ := Option.map_eq_some_iff.mp h
  cases result with
  | error e m => cases hr
  | ok o' m =>
    cases hr
    rw [play, hp]

lemma turn_of_load_error {e : Failure} (h : load path disk = .error e disk) :
    turn path limit input user false disk = .error e disk := bind_error h

lemma turn_of_converse_error {e : Failure} (h : load path disk = .ok saved disk)
    (hc : converse limit saved input user = .error e) :
    turn path limit input user false disk = .error e disk := by
  refine (bind_ok h).trans ?_
  rw [hc]
  rfl

lemma turn_of_keep_error {e : Failure} {r : Reply} (h : load path disk = .ok saved disk)
    (hc : converse limit saved input user = .ok r) (hk : keep path r.conversation disk = .error e disk') :
    turn path limit input user false disk = .error e disk' := by
  refine (bind_ok h).trans ?_
  rw [hc]
  exact (bind_ok rfl).trans (bind_error hk)

lemma turn_of_keep {r : Reply} (h : load path disk = .ok saved disk)
    (hc : converse limit saved input user = .ok r) (hk : keep path r.conversation disk = .ok () disk') :
    turn path limit input user false disk = .ok r.lines disk' := by
  refine (bind_ok h).trans ?_
  rw [hc]
  exact (bind_ok rfl).trans (bind_ok hk)

lemma turn_of_finished (h : load path disk = .ok saved disk)
    (hc : converse limit saved input user = .ok (reply thread o)) (hs : o.stack = none) :
    ∃ disk', turn path limit input user false disk = .ok (reply thread o).lines disk' ∧
      disk'.look path = none ∧ disk'.place? path = disk.place? path := by
  obtain ⟨disk', hd, hgone⟩ := discard_unless_folder (look_of_load h)
  have hr : (reply thread o).conversation = none := by simp [reply, hs]
  have hk : keep path (reply thread o).conversation disk = .ok () disk' := by
    rw [hr]
    exact hd
  exact ⟨disk', turn_of_keep h hc hk, hgone⟩

lemma turn_of_unfinished {stack' : CallStack} (h : load path disk = .ok saved disk)
    (hc : converse limit saved input user = .ok (reply thread o)) (hs : o.stack = some stack') :
    (disk.place? path = none ∧ turn path limit input user false disk = .error (.writeState path) disk) ∨
    ∃ disk', turn path limit input user false disk = .ok (reply thread o).lines disk' ∧
      disk'.look path = some (.file (Conversation.text ⟨thread, stack'.snapshots book⟩)) ∧
      disk'.place? path = disk.place? path := by
  have hr : (reply thread o).conversation = some ⟨thread, stack'.snapshots book⟩ := by simp [reply, hs]
  have hk : keep path (reply thread o).conversation disk = save path ⟨thread, stack'.snapshots book⟩ disk := by
    rw [hr]
    rfl
  rcases save_cases (look_of_load h) ⟨thread, stack'.snapshots book⟩ with ⟨hn, hw⟩ | ⟨disk', hw, hfile⟩
  · exact .inl ⟨hn, turn_of_keep_error h hc (hk.trans hw)⟩
  · exact .inr ⟨disk', turn_of_keep h hc (hk.trans hw), hfile⟩

theorem turn_keeps_conversation (disk : Disk) (path : String) (limit : Option Nat) (input : Option String)
    (user : String) :
    (∃ e, turn path limit input user false disk = .error e disk ∧ Fails disk path limit input user e) ∨
    ∃ saved thread stack entry o m disk', load path disk = .ok saved disk ∧
      Opens input user saved thread stack entry ∧
      Turn.play (env limit thread) Turn.ample stack entry = some (.ok o m) ∧
      turn path limit input user false disk = .ok (reply thread o).lines disk' ∧
      if o.finished then disk'.look path = none
      else ∃ stack', o.stack = some stack' ∧
        ((∀ c ∈ saved, ∀ s ∈ c.stack, s.vars.FloatFree) →
          load path disk' = .ok (some ⟨thread, stack'.snapshots book⟩) disk') := by
  rcases load_cases path disk with ⟨e, hl⟩ | ⟨saved, hl, -, hcan⟩
  · exact .inl ⟨e, turn_of_load_error hl, .unread hl⟩
  rcases opens_or_unknown input user saved with ⟨c, e, rfl, hr⟩ | ⟨thread, stack, entry, ho⟩
  · have hc : converse limit (some c) input user = .error (.registry e) := by simp [converse, hr]
    exact .inl ⟨_, turn_of_converse_error hl hc, .unknown hl hr⟩
  rcases play_cases ho.stores with ⟨e, m, hp, hc⟩ | ⟨o, m, hp, hc, hf⟩
  · exact .inl ⟨_, turn_of_converse_error hl (ho.converse_eq.trans hc), .run hl ho hp⟩
  cases hs : o.stack with
  | none =>
    -- Only a run that has finished leaves no stack.
    have hfin : o.finished = true := by
      by_contra hn
      exact Turn.stack_ne_of_unfinished hp (Bool.eq_false_iff.mpr hn) hs
    obtain ⟨disk', ht, hgone, -⟩ := turn_of_finished hl (ho.converse_eq.trans hc) hs
    refine .inr ⟨saved, thread, stack, entry, o, m, disk', hl, ho, hp, ht, ?_⟩
    rwa [if_pos hfin]
  | some stack' =>
    have hfin : ¬ o.finished = true := fun hn => by simp [Turn.stack_of_finished hp hn] at hs
    rcases turn_of_unfinished hl (ho.converse_eq.trans hc) hs with ⟨hn, ht⟩ | ⟨disk', ht, hfile, -⟩
    · exact .inl ⟨_, ht, .unwritable hn⟩
    · refine .inr ⟨saved, thread, stack, entry, o, m, disk', hl, ho, hp, ht, ?_⟩
      rw [if_neg hfin]
      refine ⟨stack', hs, fun hfloat => load_file hfile ?_⟩
      exact snapshots_fit (hf stack' hs (ho.fit hcan hfloat))

end Turns

end Coffee

end Dialogue
