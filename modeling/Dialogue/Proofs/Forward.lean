import Dialogue.Proofs.Limit
import Dialogue.Proofs.Registry

/-! Scripts that only jump forward come to an end. What is left to do is counted from the places of all open
frames, and every step lowers it. -/

namespace Dialogue

variable {κ : Kinds}

namespace Script

def Forward (s : Script κ) : Prop := ∀ c ∈ s.commands, ∀ offset, c.offset? = some offset → 1 ≤ offset

-- No list in memory is longer than that.
def Addressable (s : Script κ) : Prop := s.commands.length < 2 ^ 63

end Script

namespace Playbook

variable (book : Playbook κ)

def cost (i : ScriptId) : Nat :=
  -- One for the end, one for each command, and for each call the cost of what it calls.
  1 + (book.script i).commands.length + ((book.script i).callees.attach.map fun j => cost j.1).sum
termination_by i
decreasing_by exact book.lt_of_mem_callees j.2

def toll (c : Command κ) : Nat := 1 + (c.callee?.map book.cost).getD 0

def ahead (i : ScriptId) (index : Nat) : Nat :=
  1 + (((book.script i).commands.drop index).map book.toll).sum

variable {book} {i : ScriptId} {a b index : Nat} {c : Command κ}

lemma sum_toll (commands : List (Command κ)) : (commands.map book.toll).sum =
    commands.length + ((commands.filterMap Command.callee?).map book.cost).sum := by
  induction commands with
  | nil => rfl
  | cons c rest ih =>
    cases hc : c.callee? with
    | none =>
      simp only [List.map_cons, List.sum_cons, List.length_cons, List.filterMap_cons, hc, ih, toll,
        Option.map_none, Option.getD_none]
      omega
    | some j =>
      simp only [List.map_cons, List.sum_cons, List.length_cons, List.filterMap_cons, hc, ih, toll,
        Option.map_some, Option.getD_some]
      omega

lemma ahead_zero : book.ahead i 0 = book.cost i := by
  rw [ahead, cost, List.drop_zero, sum_toll, List.attach_map_val, Script.callees]
  omega

lemma ahead_of_command (h : (book.script i).commands[index]? = some c) :
    book.ahead i index = book.toll c + book.ahead i (index + 1) := by
  obtain ⟨hi, rfl⟩ := List.getElem?_eq_some_iff.mp h
  rw [ahead, ahead, List.drop_eq_getElem_cons hi, List.map_cons, List.sum_cons]
  omega

lemma ahead_anti (h : a ≤ b) : book.ahead i b ≤ book.ahead i a := by
  have hd : ((book.script i).commands.drop b).Sublist ((book.script i).commands.drop a) :=
    List.drop_sublist_drop_left _ h
  exact Nat.add_le_add_left ((hd.map book.toll).sum_le_sum (by simp)) 1

lemma ahead_le_cost : book.ahead i index ≤ book.cost i := by
  rw [← ahead_zero]
  exact ahead_anti (Nat.zero_le index)

lemma one_le_ahead : 1 ≤ book.ahead i index := Nat.le_add_right 1 _

lemma one_le_toll : 1 ≤ book.toll c := Nat.le_add_right 1 _

lemma toInt_sum (offset : Int64) (hi : index < 2 ^ 63) :
    (Int64.ofNat index + offset).toInt =
      if index + offset.toInt < 2 ^ 63 then index + offset.toInt else index + offset.toInt - 2 ^ 64 := by
  have hlt : offset.toInt < 2 ^ 63 := offset.toInt_lt
  have hle : -2 ^ 63 ≤ offset.toInt := offset.le_toInt
  rw [Int64.toInt_add, Int64.toInt_ofNat_of_lt hi, Int.bmod_def]
  split <;> split <;> omega

lemma landing_forward {target : Nat} {offset : Int64} (hi : index < 2 ^ 63) (ho : 1 ≤ offset)
    (h : book.landing i index offset = .ok target) : index < target := by
  have ho' : 1 ≤ offset.toInt := Int64.le_iff_toInt_le.mp ho
  have hs := toInt_sum offset hi
  rw [landing] at h
  split at h
  · cases h
  · next hn =>
    obtain rfl := Except.ok.inj h
    have hp : 0 ≤ (Int64.ofNat index + offset).toInt :=
      Int.not_lt.mp fun hlt => hn (Int64.lt_iff_toInt_lt.mpr hlt)
    have ht : (Int64.ofNat index + offset).toNatClampNeg = (Int64.ofNat index + offset).toInt.toNat := rfl
    have hlt : offset.toInt < 2 ^ 63 := offset.toInt_lt
    rw [ht]
    -- A sum that wraps around would be negative.
    split at hs <;> omega

end Playbook

namespace Activation

variable {f : Activation}

def pending (book : Playbook κ) (f : Activation) : Nat :=
  match f.stopAt with
  | none => 0
  | some key =>
    match (book.script f.script).calling key with
    | .error _ => 0
    | .ok (index, _) => book.ahead f.script (index + 1)

lemma pending_le_cost {book : Playbook κ} : f.pending book ≤ book.cost f.script := by
  rw [pending]
  split
  · exact Nat.zero_le _
  · split
    · exact Nat.zero_le _
    · exact Playbook.ahead_le_cost

end Activation

namespace Playbook

def Onward (book : Playbook κ) (i : ScriptId) : Prop :=
  ∀ j, book.Reaches i j → (book.script j).Forward ∧ (book.script j).Addressable

end Playbook

namespace Machine

def work (book : Playbook κ) (m : Machine) : Nat :=
  match m.frames with
  | [] => 0
  | f :: callers => book.ahead f.script f.index + (callers.map (Activation.pending book)).sum

def Onward (book : Playbook κ) (m : Machine) : Prop := ∀ f ∈ m.frames, book.Onward f.script

variable {env : Env κ} {m m' : Machine} {f : Activation} {callers : List Activation} {k : Nat}

lemma work_eq (book : Playbook κ) (hf : m.frames = f :: callers) :
    m.work book = book.ahead f.script f.index + (callers.map (Activation.pending book)).sum := by
  rw [work, hf]

lemma go_lowers {f' : Activation} {said : List Value} {queued : List PendingYield}
    (hf : env.book.Onward f.script) (ha : f.action env = .ok (.go f' said queued)) :
    env.book.ahead f'.script f'.index < env.book.ahead f.script f.index := by
  obtain ⟨hs, c, offset, hc, ho, hl⟩ := Activation.action_eq_ok ha
  obtain ⟨hi, hm⟩ := List.getElem?_eq_some_iff.mp hc
  obtain ⟨hfw, had⟩ := hf f.script .refl
  have hone : 1 ≤ offset := by
    rcases ho with rfl | ho
    · decide
    · exact hfw c (hm ▸ List.getElem_mem hi) offset ho
  have hlt : f.index < f'.index := Playbook.landing_forward (Nat.lt_trans hi had) hone hl
  have hle : env.book.ahead f.script f'.index ≤ env.book.ahead f.script (f.index + 1) :=
    Playbook.ahead_anti hlt
  have hahead := Playbook.ahead_of_command hc
  have htoll : 1 ≤ env.book.toll c := Playbook.one_le_toll
  rw [hs]
  omega

lemma enter_lowers {key : String} {child : Activation} (ha : f.action env = .ok (.enter key child)) :
    env.book.ahead child.script child.index + Activation.pending env.book { f with stopAt := some key } <
      env.book.ahead f.script f.index := by
  obtain ⟨entry, params, store, hc⟩ := Activation.action_eq_ok ha
  have hcall : (env.book.script f.script).calling key = .ok (f.index, store) :=
    Script.calling_eq_ok_iff.mpr ⟨_, _, _, hc⟩
  have hp : Activation.pending env.book { f with stopAt := some key } =
      env.book.ahead f.script (f.index + 1) := by
    simp [Activation.pending, hcall]
  have hahead := Playbook.ahead_of_command hc
  -- The toll of the call pays for all that its callee can do.
  have htoll : env.book.toll (.call key child.script entry params store) = 1 + env.book.cost child.script := rfl
  have hchild : env.book.ahead child.script child.index ≤ env.book.cost child.script := Playbook.ahead_le_cost
  omega

lemma receive_pending {c c' : Activation} {value : Option Value} (h : c.receive env value = .ok c') :
    env.book.ahead c'.script c'.index = c.pending env.book := by
  obtain ⟨key, index, store, vars, hk, hc, -, rfl⟩ := Activation.receive_eq_ok h
  simp only [Activation.pending, hk, hc]
  rfl

lemma step_lowers (hm : m.Onward env.book) (h : step env m = .ok .running m') :
    m'.Onward env.book ∧ m'.work env.book < m.work env.book := by
  refine ⟨step_scripts (fun i hi j hj k hk => hi k (hk.head hj)) hm h, ?_⟩
  obtain ⟨f, callers, hf⟩ := frames_of_running h
  obtain ⟨a, ha, hp⟩ := step_eq_ok hf h
  cases a with
  | go f' said queued =>
    cases hp
    have hof : env.book.Onward f.script := hm f (by simp [hf])
    have hlt := go_lowers hof ha
    rw [work_eq _ hf, work_eq _ rfl]
    omega
  | wait key => cases hp
  | enter key child =>
    cases hp
    have hlt := enter_lowers ha
    rw [work_eq _ hf, work_eq _ rfl, List.map_cons, List.sum_cons]
    omega
  | leave value =>
    cases callers with
    | nil => cases hp
    | cons c rest =>
      simp only [perform, handOver] at hp
      split at hp
      · cases hp
      · next c' hr =>
        cases hp
        have hpend := receive_pending hr
        have hone : 1 ≤ env.book.ahead f.script f.index := Playbook.one_le_ahead
        rw [work_eq _ hf, work_eq _ rfl, List.map_cons, List.sum_cons]
        omega

lemma Steps.lowers (h : Steps env k m m') (hm : m.Onward env.book) :
    m'.Onward env.book ∧ k + m'.work env.book ≤ m.work env.book := by
  induction h with
  | zero m => exact ⟨hm, by omega⟩
  | succ hs _ ih =>
    obtain ⟨h₂, hlt⟩ := step_lowers hm hs
    obtain ⟨h₃, hle⟩ := ih h₂
    exact ⟨h₃, by omega⟩

lemma Steps.lt_work (h : Steps env k m m') (hm : m.Onward env.book) (hu : m.Upright) :
    k < m.work env.book := by
  obtain ⟨f, callers, hf, -⟩ := hu.steps h
  have hle := (h.lowers hm).2
  have hone : 1 ≤ env.book.ahead f.script f.index := Playbook.one_le_ahead
  rw [work_eq _ hf] at hle
  omega

end Machine

def CallStack.cost (book : Playbook κ) (stack : CallStack) : Nat :=
  (stack.frames.map fun f => book.cost f.script).sum

namespace Turn

variable {env : Env κ} {stack : CallStack} {entry : Entry} {m : Machine} {fuel n : Nat}

lemma sum_pending_le (frames : List Frame) : ((frames.map activate).map (Activation.pending env.book)).sum ≤
    (frames.map fun f => env.book.cost f.script).sum := by
  rw [List.map_map]
  exact List.sum_le_sum fun f _ => Activation.pending_le_cost

lemma Starts.work_le (h : Starts env stack entry m) : m.work env.book ≤ stack.cost env.book := by
  have hc : stack.cost env.book = env.book.cost stack.innermost.script +
    (stack.callers.map fun f => env.book.cost f.script).sum := rfl
  cases h with
  | fresh hn =>
    rw [Machine.work_eq _ rfl, hc, hn]
    exact Nat.add_le_add_right Playbook.ahead_le_cost _
  | resume _ _ _ =>
    rw [Machine.work_eq _ rfl, hc]
    exact Nat.add_le_add Playbook.ahead_le_cost (sum_pending_le stack.callers)

lemma Barred.ne_stepLimit : ¬ Barred env stack entry (.stepLimit n) := by
  intro h
  cases h with
  | target _ _ ha => rcases Script.asking_eq_error ha with he | he <;> cases he
  | input _ _ _ hv => cases Activation.stored_eq_error hv

lemma limit_of_play (h : play env fuel stack entry = some (.error (.stepLimit n) m)) :
    env.limit = some n := by
  rcases play_eq_error h with he | ⟨m₀, he, hr | hh⟩
  · have hc := enter_cases env stack entry
    rw [he] at hc
    exact absurd hc Barred.ne_stepLimit
  · obtain ⟨k, m', -, hs, hlast, -⟩ := Machine.run_eq_some hr
    obtain ⟨f, callers, hf, hw⟩ := (enter_upright he).steps hs
    rcases Machine.step_eq_error hf hlast with ⟨limit, hl, hn⟩ | ha | ⟨value, c, rest, rfl, hc⟩
    · cases hn
      exact hl
    · cases Activation.action_eq_error ha with
      | hook hh => cases hh
    · obtain ⟨key, hk⟩ := Option.ne_none_iff_exists'.mp (hw c List.mem_cons_self)
      rcases Activation.receive_eq_error hk hc with hc | hc
      · rcases Script.calling_eq_error hc with he | he <;> cases he
      · cases hc
  · cases hh

theorem forward_settles (env : Env κ) (stack : CallStack) (entry : Entry)
    (hf : ∀ f ∈ stack.frames, ∀ j, env.book.Reaches f.script j → (env.book.script j).Forward)
    (ha : ∀ f ∈ stack.frames, ∀ j, env.book.Reaches f.script j → (env.book.script j).Addressable) :
    ∃ r, (∀ n m, r ≠ .error (.stepLimit n) m) ∧
      ∀ limit, (∀ n ∈ limit, stack.cost env.book ≤ n) →
        Settles (env.withLimit limit) stack entry (stack.cost env.book) r := by
  have hs : ∀ f ∈ stack.frames, env.book.Onward f.script := fun f hm j hj => ⟨hf f hm j hj, ha f hm j hj⟩
  suffices h : ∃ r, ∀ limit, (∀ n ∈ limit, stack.cost env.book ≤ n) →
      Settles (env.withLimit limit) stack entry (stack.cost env.book) r by
    obtain ⟨r, hr⟩ := h
    refine ⟨r, ?_, hr⟩
    rintro n m rfl
    cases limit_of_play (hr none (by simp) _ (Nat.le_refl _))
  cases he : enter env stack entry {} with
  | error e m =>
    refine ⟨.error e m, fun limit _ fuel _ => ?_⟩
    rw [play_eq, enter_withLimit, he]
  | ok _ m =>
    have hst : Starts env stack entry m := starts_of_enter he
    have hm : m.Onward env.book := hst.scripts hs
    rcases stops_or_endless (env.withLimit none) m with ⟨k, m', r, hk, hr, hne⟩ | hk
    · have hlt : k < m.work env.book := hk.lt_work hm (enter_upright he)
      have hle : m.work env.book ≤ stack.cost env.book := hst.work_le
      refine ⟨close r, fun limit hl fuel hfuel => ?_⟩
      exact settles_of_steps he hk hr hne (fun n hn => by have := hl n hn; omega) fuel (by omega)
    · -- An endless run would take as many steps as there is work.
      obtain ⟨m', hk⟩ := hk (m.work env.book)
      exact absurd (hk.lt_work hm (enter_upright he)) (Nat.lt_irrefl _)

def errand : Playbook .common where
  scripts := [
    { name := "away", commands := [.jump 1], stops := {}, indexed := rfl },
    { name := "home", commands := [.call "errand" 0 none none none, .jump 3], stops := ⟨[("errand", 0)]⟩,
      indexed := rfl }]

lemma errand_onward : ∀ j, (errand.script j).Forward ∧ (errand.script j).Addressable := by
  refine Playbook.forall_script (P := fun s => s.Forward ∧ s.Addressable) ?_ ?_
  · simp [Script.Forward, Script.Addressable, Script.empty]
  · simp [errand, Script.Forward, Script.Addressable, Command.offset?]

lemma errand_cost : (CallStack.root errand 1 none).cost errand = 5 := by
  have h₀ : errand.cost 0 = 2 := by
    rw [← Playbook.ahead_zero]
    rfl
  have hs : (errand.script 1).commands = [.call "errand" 0 none none none, .jump 3] := rfl
  have h₁ : errand.cost 1 = 5 := by
    rw [← Playbook.ahead_zero, Playbook.ahead, hs]
    simp [Playbook.toll, Command.callee?, h₀]
  simpa [CallStack.cost, CallStack.frames, CallStack.root] using h₁

theorem errand_settles : (CallStack.root errand 1 none).cost errand = 5 ∧
    ∃ r, (∀ n m, r ≠ .error (.stepLimit n) m) ∧
      Settles (errand.alone (some 5)) (CallStack.root errand 1 none) .fresh 5 r := by
  refine ⟨errand_cost, ?_⟩
  obtain ⟨r, hr, hs⟩ := forward_settles (errand.alone none) (CallStack.root errand 1 none) .fresh
    (fun _ _ j _ => (errand_onward j).1) (fun _ _ j _ => (errand_onward j).2)
  refine ⟨r, hr, ?_⟩
  have hc : (CallStack.root errand 1 none).cost (errand.alone none).book = 5 := errand_cost
  rw [hc] at hs
  exact hs (some 5) (by simp)

end Turn

end Dialogue
