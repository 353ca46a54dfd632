import Dialogue.Proofs.Trail

/-! What operations do to the frames. Most leave them alone. A command that moves its frame first does all the rest,
which changes no more of the frames than the variables of the innermost one. -/

namespace Dialogue.Machine

variable {κ : Kinds}

variable {α β : Type} (env : Env κ)

def Framed (x : Act α) : Prop := ∀ m, (left (x m)).frames = m.frames

def assign (store : Option (Query κ)) : Act Unit := do
  match ← evaluate? env store with
  | none => return
  | some vars => update fun f => { f with vars }

def queue (emit : Option (Update κ)) : Act Unit := do
  match emit with
  | none => return
  | some hook =>
    let routine ← resolve env hook
    let context ← context env
    modify fun m => { m with yields := m.yields.push ⟨routine, context⟩ }

def prepare? : Command κ → Option (Act Int64)
  -- A question, a call and a return leave the frame where it is.
  | .say content => some do
    let value ← evaluate env content
    modify fun m => { m with contents := m.contents.push value }
    return 1
  | .jump offset => some (return offset)
  | .branch condition negated offset => some do
    let holds ← evaluate env condition
    return if holds != negated then offset else 1
  | .effect store emit => some do
    assign env store
    queue env emit
    return 1
  | _ => none

variable {env} {m m' : Machine} {f : Activation} {callers : List Activation} {c : Command κ} {x : Act Int64}
  {offset : Int64}

lemma bind_cases (y : Act α) (k : α → Act β) (m : Machine) :
    (∃ e m₁, y m = .error e m₁ ∧ (y >>= k) m = .error e m₁) ∨ ∃ a m₁, y m = .ok a m₁ ∧ (y >>= k) m = k a m₁ := by
  cases hm : y m with
  | error e m₁ => exact .inl ⟨e, m₁, rfl, bind_error hm⟩
  | ok a m₁ => exact .inr ⟨a, m₁, rfl, bind_ok hm⟩

lemma left_settle (m : Machine) (a : Except RunError α) : left (m.settle a) = m := by
  cases a <;> rfl

lemma Framed.of_ok {y : Act α} {a : α} (hy : Framed y) (h : y m = .ok a m') : m'.frames = m.frames := by
  have hm := hy m
  rwa [h] at hm

lemma Framed.bind {y : Act α} {k : α → Act β} (hy : Framed y) (hk : ∀ a, Framed (k a)) : Framed (y >>= k) := by
  intro m
  have hm := hy m
  rcases bind_cases y k m with ⟨e, m₁, h, hb⟩ | ⟨a, m₁, h, hb⟩
  · rw [hb]
    rwa [h] at hm
  · rw [hb, hk a m₁]
    rwa [h] at hm

lemma framed_pure (a : α) : Framed (pure a) := fun _ => rfl

lemma framed_innermost : Framed innermost := by
  intro m
  rw [innermost]
  split <;> rfl

section

variable (env)

lemma framed_context : Framed (context env) := framed_innermost.bind fun _ => framed_pure _

lemma framed_resolve (hook : Hook κ α β) : Framed (resolve env hook) := by
  intro m
  rw [resolve_eq, left_settle, noted_frames]

lemma framed_invoke (routine : Routine α β) (y : α) : Framed (invoke routine y) := by
  intro m
  rw [invoke_eq, left_settle, noted_frames]

lemma framed_evaluate (hook : Hook κ Context β) : Framed (evaluate env hook) := by
  apply (framed_resolve env hook).bind
  intro routine
  exact (framed_context env).bind (framed_invoke routine)

lemma framed_evaluate? (hook : Option (Hook κ Context β)) : Framed (evaluate? env hook) := by
  cases hook with
  | none => exact framed_pure _
  | some hook => exact (framed_evaluate env hook).bind fun _ => framed_pure _

lemma framed_queue (emit : Option (Update κ)) : Framed (queue env emit) := by
  cases emit with
  | none => exact framed_pure _
  | some hook =>
    apply (framed_resolve env hook).bind
    intro routine
    apply (framed_context env).bind
    exact fun _ _ => rfl

end

lemma dispatch_eq_advance (h : prepare? env c = some x) : dispatch env c = x >>= advance env := by
  cases c with
  | say content =>
    cases h
    simp only [dispatch, say, bind_assoc, pure_bind]
  | ask key store => cases h
  | call key callee entry params store => cases h
  | jump offset =>
    cases h
    simp only [dispatch, pure_bind]
  | branch condition negated offset =>
    cases h
    simp only [dispatch, branch, bind_assoc, pure_bind]
  | finish value => cases h
  | effect store emit =>
    cases h
    simp only [dispatch, effect, assign, bind_assoc, pure_bind]
    congr 1
    funext vars
    cases vars <;> cases emit <;> simp only [queue, bind_assoc, pure_bind]

lemma assign_frames {store : Option (Query κ)} (hf : m.frames = f :: callers) (h : assign env store m = .ok () m') :
    ∃ vars, m'.frames = { f with vars } :: callers := by
  rw [assign] at h
  rcases bind_cases (evaluate? env store) _ m with ⟨e, m₁, -, hb⟩ | ⟨vars, m₁, he, hb⟩
  · cases hb.symm.trans h
  · have hf₁ : m₁.frames = f :: callers := ((framed_evaluate? env store).of_ok he).trans hf
    have h₁ := hb.symm.trans h
    cases vars with
    | none =>
      cases h₁
      exact ⟨f.vars, hf₁⟩
    | some vars =>
      cases (update_eq _ hf₁).symm.trans h₁
      exact ⟨vars, rfl⟩

lemma prepare_frames (h : prepare? env c = some x) (hf : m.frames = f :: callers) (hx : x m = .ok offset m') :
    ∃ vars, m'.frames = { f with vars } :: callers := by
  cases c with
  | say content =>
    cases h
    have hs : m'.frames = m.frames := by
      apply ((framed_evaluate env content).bind ?_).of_ok hx
      exact fun _ _ => rfl
    exact ⟨f.vars, hs.trans hf⟩
  | ask key store => cases h
  | call key callee entry params store => cases h
  | jump offset =>
    cases h
    exact ⟨f.vars, ((framed_pure _).of_ok hx).trans hf⟩
  | branch condition negated offset =>
    cases h
    have hs : m'.frames = m.frames := ((framed_evaluate env condition).bind fun _ => framed_pure _).of_ok hx
    exact ⟨f.vars, hs.trans hf⟩
  | finish value => cases h
  | effect store emit =>
    cases h
    rcases bind_cases (assign env store) _ m with ⟨e, m₁, -, hb⟩ | ⟨_, m₁, ha, hb⟩
    · cases hb.symm.trans hx
    · obtain ⟨vars, hv⟩ := assign_frames hf ha
      have hq : m'.frames = m₁.frames :=
        ((framed_queue env emit).bind fun _ => framed_pure _).of_ok (hb.symm.trans hx)
      exact ⟨vars, hq.trans hv⟩

end Dialogue.Machine
