import Dialogue.Machine
import Mathlib

/-! Hooks as functions of what they see, and the parts of a step as functions of the innermost frame. -/

namespace Dialogue

variable {κ : Kinds}

variable {α β : Type}

section Bind

variable {ε σ : Type} {x : EStateM ε σ α} {k : α → EStateM ε σ β} {s s' : σ}

lemma bind_ok {a : α} (h : x s = .ok a s') : (x >>= k) s = k a s' := by
  simp [bind, EStateM.bind, h]

lemma bind_error {e : ε} (h : x s = .error e s') : (x >>= k) s = .error e s' := by
  simp [bind, EStateM.bind, h]

lemma bind_get (k : σ → EStateM ε σ β) (s : σ) : (get >>= k) s = k s s := rfl

end Bind

namespace Hook

variable (env : Env κ)

def answer (hook : Hook κ α β) (x : α) : Except RunError β :=
  match (hook.resolve env.scope env.thread.uid).2 with
  | .error e => .error (.service e)
  | .ok routine => (routine.run x).mapError .hook

def answer? (hook : Option (Hook κ α β)) (x : α) : Except RunError (Option β) :=
  match hook with
  | none => .ok none
  | some hook => (hook.answer env x).map some

def trace (hook : Hook κ α β) : List Event :=
  (hook.resolve env.scope env.thread.uid).1 ++
    match (hook.resolve env.scope env.thread.uid).2 with
    | .error _ => []
    | .ok routine => [.called routine.label]

def trace? (hook : Option (Hook κ α β)) : List Event :=
  match hook with
  | none => []
  | some hook => hook.trace env

def queued (emit : Option (Hook κ (Context × Option Value) Value)) (c : Context) :
    Except RunError (List PendingYield) :=
  match emit with
  | none => .ok []
  | some hook =>
    match (hook.resolve env.scope env.thread.uid).2 with
    | .error e => .error (.service e)
    | .ok routine => .ok [⟨routine, c⟩]

end Hook

namespace Playbook

variable (book : Playbook κ)

def landing (i : ScriptId) (index : Nat) (offset : Int64) : Except RunError Nat :=
  if Int64.ofNat index + offset < 0 then .error (.jumpOutOfRange (book.script i).name index offset)
  else .ok (Int64.ofNat index + offset).toNatClampNeg

def start (callee : ScriptId) (entry : Option String) : Except RunError Nat :=
  match entry with
  | none => .ok 0
  | some key => (book.script callee).stopIndex key

end Playbook

namespace Activation

variable (env : Env κ)

def stored (f : Activation) (store : Option (Update κ)) (input : Option Value) : Except RunError Value :=
  match store with
  | none => .ok f.vars
  | some hook => hook.answer env (Machine.contextOf env f, input)

def past (f : Activation) (index : Nat) (vars : Value) : Activation :=
  { f with vars, index := index + 1, stopAt := none }

def jump (f : Activation) (offset : Int64) : Except RunError Activation :=
  (env.book.landing f.script f.index offset).map fun index => { f with index }

end Activation

namespace Machine

def noted (m : Machine) (events : List Event) : Machine :=
  { m with journal := m.journal ++ events }

@[simp] lemma noted_frames (m : Machine) (events : List Event) :
    (m.noted events).frames = m.frames := rfl

@[simp] lemma noted_contents (m : Machine) (events : List Event) :
    (m.noted events).contents = m.contents := rfl

@[simp] lemma noted_yields (m : Machine) (events : List Event) :
    (m.noted events).yields = m.yields := rfl

@[simp] lemma noted_steps (m : Machine) (events : List Event) :
    (m.noted events).steps = m.steps := rfl

@[simp] lemma noted_nil (m : Machine) : m.noted [] = m := by
  simp [noted]

@[simp] lemma noted_noted (m : Machine) (a b : List Event) :
    (m.noted a).noted b = m.noted (a ++ b) := by
  simp [noted, ← Array.toList_inj]

def settle (m : Machine) : Except RunError α → EStateM.Result RunError Machine α
  | .ok a => .ok a m
  | .error e => .error e m

@[simp] lemma settle_ok (m : Machine) (a : α) : m.settle (.ok a) = .ok a m := rfl

@[simp] lemma settle_error (m : Machine) (e : RunError) :
    m.settle (.error e : Except RunError α) = .error e m := rfl

variable (env : Env κ) {m : Machine} {f : Activation} {callers : List Activation}

lemma context_eq (hf : m.frames = f :: callers) : context env m = .ok (contextOf env f) m := by
  simp [context, innermost, hf, bind, EStateM.bind, pure, EStateM.pure]

lemma update_eq (change : Activation → Activation) (hf : m.frames = f :: callers) :
    update change m = .ok () { m with frames := change f :: callers } := by
  simp [update, hf]

lemma resolve_eq (hook : Hook κ α β) (m : Machine) :
    resolve env hook m = (m.noted (hook.resolve env.scope env.thread.uid).1).settle
      ((hook.resolve env.scope env.thread.uid).2.mapError .service) := by
  rcases hr : hook.resolve env.scope env.thread.uid with ⟨events, _ | routine⟩ <;>
    simp [resolve, hr, note, noted, bind, EStateM.bind, modify, modifyGet, MonadStateOf.modifyGet,
      EStateM.modifyGet, Except.mapError, throw, throwThe, MonadExceptOf.throw, EStateM.throw,
      pure, EStateM.pure]

lemma invoke_eq (routine : Routine α β) (x : α) (m : Machine) :
    invoke routine x m =
      (m.noted [.called routine.label]).settle ((routine.run x).mapError .hook) := by
  cases hr : routine.run x <;>
    simp [invoke, hr, note, noted, bind, EStateM.bind, modify, modifyGet, MonadStateOf.modifyGet,
      EStateM.modifyGet, Except.mapError, throw, throwThe, MonadExceptOf.throw, EStateM.throw,
      pure, EStateM.pure]

lemma resolve_cases (hook : Hook κ α β) (m : Machine) :
    (∃ e, resolve env hook m = .error e (m.noted (hook.trace env)) ∧
      ∀ x, hook.answer env x = .error e) ∨
    ∃ routine events, resolve env hook m = .ok routine (m.noted events) ∧
      ∀ x, invoke routine x (m.noted events) =
        (m.noted (hook.trace env)).settle (hook.answer env x) := by
  have hr := resolve_eq env hook m
  cases hh : (hook.resolve env.scope env.thread.uid).2 with
  | error e =>
    left
    refine ⟨.service e, ?_, fun x => by simp [Hook.answer, hh]⟩
    simp [hr, hh, Hook.trace, Except.mapError]
  | ok routine =>
    right
    refine ⟨routine, _, by rw [hr, hh]; rfl, ?_⟩
    intro x
    simp [invoke_eq, Hook.trace, Hook.answer, hh]

lemma evaluate_eq (hook : Hook κ Context β) (hf : m.frames = f :: callers) :
    evaluate env hook m =
      (m.noted (hook.trace env)).settle (hook.answer env (contextOf env f)) := by
  rcases resolve_cases env hook m with ⟨e, hr, ha⟩ | ⟨routine, events, hr, hi⟩
  · rw [evaluate, bind_error hr, ha]
    rfl
  · have hc : context env (m.noted events) = .ok (contextOf env f) (m.noted events) :=
      context_eq env hf
    rw [evaluate, bind_ok hr, bind_ok hc, hi]

lemma evaluate?_eq (hook : Option (Hook κ Context β)) (hf : m.frames = f :: callers) :
    evaluate? env hook m =
      (m.noted (Hook.trace? env hook)).settle (Hook.answer? env hook (contextOf env f)) := by
  cases hook with
  | none => simp [evaluate?, Hook.trace?, Hook.answer?, pure, EStateM.pure]
  | some hook =>
    have he := evaluate_eq env hook hf
    simp only [evaluate?, Hook.trace?, Hook.answer?]
    cases hh : hook.answer env (contextOf env f) with
    | error e =>
      rw [hh] at he
      rw [bind_error he]
      rfl
    | ok y =>
      rw [hh] at he
      rw [bind_ok he]
      rfl

lemma advance_eq (offset : Int64) (hf : m.frames = f :: callers) :
    advance env offset m =
      match f.jump env offset with
      | .ok f' => .ok .running { m with frames := f' :: callers }
      | .error e => .error e m := by
  have hi : innermost m = .ok f m := by simp [innermost, hf]
  rw [advance, bind_ok hi]
  by_cases ht : Int64.ofNat f.index + offset < 0
  · simp [Activation.jump, Playbook.landing, Except.map, ht, throw, throwThe, MonadExceptOf.throw,
      EStateM.throw, bind, EStateM.bind]
  · simp [Activation.jump, Playbook.landing, Except.map, ht, update_eq _ hf, bind, EStateM.bind, pure,
      EStateM.pure]

lemma absorb_eq (store : Option (Update κ)) (input : Option Value) (hf : m.frames = f :: callers) :
    absorb env store input m =
      match f.stored env store input with
      | .ok vars => .ok () { m.noted (Hook.trace? env store) with
          frames := { f with vars } :: callers }
      | .error e => .error e (m.noted (Hook.trace? env store)) := by
  cases store with
  | none =>
    simp [absorb, Activation.stored, Hook.trace?, ← hf, pure, EStateM.pure]
  | some hook =>
    rcases resolve_cases env hook m with ⟨e, hr, ha⟩ | ⟨routine, events, hr, hi⟩
    · rw [absorb, bind_error hr, Activation.stored, ha]
      rfl
    · have hc : context env (m.noted events) = .ok (contextOf env f) (m.noted events) :=
        context_eq env hf
      rw [absorb, bind_ok hr, bind_ok hc, Activation.stored]
      have hv := hi (contextOf env f, input)
      cases ha : hook.answer env (contextOf env f, input) with
      | error e =>
        rw [ha] at hv
        rw [bind_error hv]
        rfl
      | ok vars =>
        rw [ha] at hv
        have hf' : (m.noted (hook.trace env)).frames = f :: callers := hf
        rw [bind_ok hv, update_eq _ hf']
        rfl

lemma answer_eq (index : Nat) (store : Option (Update κ)) (input : Option Value)
    (hf : m.frames = f :: callers) :
    answer env index store input m =
      match f.stored env store input with
      | .ok vars => .ok () { m.noted (Hook.trace? env store) with
          frames := f.past index vars :: callers }
      | .error e => .error e (m.noted (Hook.trace? env store)) := by
  have ha := absorb_eq env store input hf
  cases hs : f.stored env store input with
  | error e =>
    rw [hs] at ha
    rw [answer, bind_error ha]
  | ok vars =>
    rw [hs] at ha
    rw [answer, bind_ok ha, leave, update_eq _ rfl]
    rfl

end Machine

end Dialogue
