import Dialogue.Proofs.Continuation
import Dialogue.Proofs.RunError

/-! A dialogue never breaks its own continuation: its turns do not fail for want of a place to go on. -/

namespace Dialogue

variable {κ : Kinds}

variable {book : Playbook κ} {root : ScriptId}

lemma Frame.Awaits.calling {f : Frame} {callee : ScriptId} (h : f.Awaits book callee) :
    ∃ key target, f.stopAt = some key ∧ (book.script f.script).calling key = .ok target := by
  obtain ⟨key, index, entry, params, store, hk, -, hc⟩ := h
  exact ⟨key, (index, store), hk, Script.calling_eq_ok_iff.mpr ⟨callee, entry, params, hc⟩⟩

namespace Machine

variable {env : Env κ} {m m' : Machine} {e : RunError}

lemma next?_eq {f : Activation} {callers : List Activation} (hf : m.frames = f :: callers) :
    next? env m = f.command? env := by
  rw [next?, hf]
  rfl

lemma Linked.step_error (h : m.Linked env.book root) (hs : step env m = .error e m') :
    ∃ f callers, m.frames = f :: callers ∧
      ((∃ limit, env.limit = some limit ∧ e = .stepLimit limit) ∨ f.Faults env e) := by
  obtain ⟨f, callers, hf, hc⟩ := h
  refine ⟨f, callers, hf, ?_⟩
  rcases step_eq_error hf hs with hl | ha | ⟨value, c, rest, rfl, hr⟩
  · exact .inl hl
  · exact .inr (Activation.action_eq_error ha)
  · cases hc with
    | call hw _ =>
      obtain ⟨key, target, hk, ht⟩ := hw.calling
      rcases Activation.receive_eq_error hk hr with he | he
      · cases ht.symm.trans he
      · exact .inr (.hook he)

end Machine

namespace Turn

variable {env : Env κ} {stack : CallStack} {entry : Entry} {e : RunError} {m : Machine}

lemma enter_error (h : Enters env.book root stack entry)
    (he : enter env stack entry {} = .error e m) : e.OfHook := by
  cases entry with
  | fresh =>
    obtain ⟨params, rfl⟩ := h
    rw [enter_root] at he
    cases he
  | resume input =>
    obtain ⟨key, index, store, hk, -, hc⟩ := CallStack.WellFormed.asks h
    rw [enter_resume input (frames_stopAt_ne h) hk hc,
      Machine.answer_eq env index store input rfl] at he
    split at he
    · cases he
    · next hv =>
      cases he
      exact Activation.stored_eq_error hv

variable (env stack entry) in
inductive Mishap (m : Machine) : RunError → Prop
  | hook {e : RunError} : e.OfHook → Mishap m e
  | limit {n : Nat} : env.limit = some n → Mishap m (.stepLimit n)
  | jump (script : String) (index : Nat) (offset : Int64) : Mishap m (.jumpOutOfRange script index offset)
  | entry {m₀ m₁ : Machine} {k : Nat} {key place : String} {callee : ScriptId} {params : Option (Query κ)}
      {store : Option (Update κ)} :
      enter env stack entry {} = .ok () m₀ → Machine.Steps env k m₀ m₁ →
      Machine.next? env m₁ = some (.call key callee (some place) params store) →
      (env.book.script callee).Lacks place →
      Machine.step env m₁ = .error (.keyNotFound (env.book.script callee).name place) m →
      Mishap m (.keyNotFound (env.book.script callee).name place)

lemma Mishap.not_of_stack (h : Mishap env stack entry m e) :
    (∀ reason, e ≠ .malformed reason) ∧ (∀ script key, e ≠ .notAsking script key) ∧
      ∀ script key, e ≠ .notCalling script key := by
  cases h with
  | hook hh => cases hh <;> simp
  | limit _ => simp
  | jump _ _ _ => simp
  | entry _ _ _ _ _ => simp

lemma mishap_of_enters {fuel : Nat} (h : Enters env.book root stack entry)
    (hp : play env fuel stack entry = some (.error e m)) : Mishap env stack entry m e := by
  rcases play_eq_error hp with he | ⟨m₀, he, hr | he⟩
  · exact .hook (enter_error h he)
  · obtain ⟨k, m₁, -, hs, hlast, -⟩ := Machine.run_eq_some hr
    obtain ⟨f, callers, hf, ⟨n, hn, rfl⟩ | hfault⟩ :=
      ((enter_linked h he).steps hs).step_error hlast
    · exact .limit hn
    · cases hfault with
      | hook hh => exact .hook hh
      | jump offset => exact .jump _ _ offset
      | entry hc hk => exact .entry he hs ((Machine.next?_eq hf).trans hc) hk hlast
  · exact .hook he

theorem dialogue_mishap {scope : Scope κ} {thread : Thread} {limit : Option Nat} {fuel : Nat}
    (h : Occurs book root stack entry)
    (hp : play ⟨book, scope, thread, limit⟩ fuel stack entry = some (.error e m)) :
    ((∀ reason, e ≠ .malformed reason) ∧ (∀ script key, e ≠ .notAsking script key) ∧
      ∀ script key, e ≠ .notCalling script key) ∧
    Mishap ⟨book, scope, thread, limit⟩ stack entry m e := by
  have hm : Mishap ⟨book, scope, thread, limit⟩ stack entry m e := mishap_of_enters h.enters hp
  exact ⟨hm.not_of_stack, hm⟩

def astray : Playbook .common where
  scripts := [
    { name := "child", commands := [.ask "where" none], stops := ⟨[("where", 0)]⟩, indexed := rfl },
    { name := "parent", commands := [.call "visit" 0 (some "nowhere") none none], stops := ⟨[("visit", 0)]⟩,
      indexed := rfl }]

theorem astray_mishap : ∃ m,
    play (astray.alone none) 1 (CallStack.root astray 1 none) .fresh =
      some (.error (.keyNotFound "child" "nowhere") m) ∧
    Mishap (astray.alone none) (CallStack.root astray 1 none) .fresh m (.keyNotFound "child" "nowhere") := by
  have hp : ∃ m, play (astray.alone none) 1 (CallStack.root astray 1 none) .fresh =
      some (.error (.keyNotFound "child" "nowhere") m) := ⟨_, rfl⟩
  obtain ⟨m, hp⟩ := hp
  exact ⟨m, hp, (dialogue_mishap (.start none) hp).2⟩

end Turn

end Dialogue
