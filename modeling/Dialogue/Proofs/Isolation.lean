import Dialogue.Coffee.Turn
import Mathlib

/-! A conversation sees the services that are provided for its own key, and those for all that none of its own
hides. Nothing else that a scope holds can change a turn. -/

namespace Dialogue

variable {κ : Kinds}

structure Provision (κ : Kinds) where
  name : String
  key : Option String
  service : Service κ

namespace Services

def provided (ps : List (Provision κ)) : Services κ :=
  ps.foldl (fun services p => services.provide p.name p.key p.service) {}

def given (ps : List (Provision κ)) (name : String) (key : Option String) : List (Service κ) :=
  (ps.filter fun p => p.name = name ∧ p.key = key).map Provision.service

structure Alike (key : String) (ps ps' : List (Provision κ)) : Prop where
  own : ∀ name, given ps name (some key) = given ps' name (some key)
  shared : ∀ name, given ps name (some key) = [] → given ps name none = given ps' name none

def at? (services : Services κ) (name : String) : Option String → Option (Service κ)
  | none => services.forAll.lookup name
  | some key => services.forKey.lookup (name, key)

variable {services : Services κ} {name key : String}

lemma find?_eq_or : services.find? key name = (services.at? name (some key)).or (services.at? name none) := by
  rw [find?, at?, at?]
  cases services.forKey.lookup (name, key) <;> rfl

lemma at?_provide (p : Provision κ) (name : String) (key : Option String) :
    (services.provide p.name p.key p.service).at? name key =
      if p.name = name ∧ p.key = key then some p.service else services.at? name key := by
  obtain ⟨n, k, service⟩ := p
  cases k with
  | none =>
    cases key with
    | none =>
      by_cases hn : n = name
      · simp [provide, at?, hn]
      · have hb : (name == n) = false := by simpa using Ne.symm hn
        simp [provide, at?, hn, List.lookup_cons, hb]
    | some key => simp [provide, at?]
  | some k =>
    cases key with
    | none => simp [provide, at?]
    | some key =>
      by_cases hn : (name, key) = (n, k)
      · obtain ⟨rfl, rfl⟩ := Prod.mk.inj hn
        simp [provide, at?]
      · have hb : ((name, key) == (n, k)) = false := by simpa using hn
        have hne : ¬ (n = name ∧ k = key) := fun h => hn (by rw [h.1, h.2])
        simp only [provide, at?, List.lookup_cons, hb, Option.some.injEq, hne, if_false]

lemma at?_provided (ps : List (Provision κ)) (name : String) (key : Option String) :
    (provided ps).at? name key = (given ps name key).getLast? := by
  induction ps using List.reverseRecOn with
  | nil => cases key <;> rfl
  | append_singleton ps p ih =>
    have hp : provided (ps ++ [p]) = (provided ps).provide p.name p.key p.service := by simp [provided]
    rw [hp, at?_provide, ih, given, given, List.filter_append, List.map_append]
    by_cases h : p.name = name ∧ p.key = key
    · simp [h]
    · simp [h]

lemma Alike.find?_eq {ps ps' : List (Provision κ)} (h : Alike key ps ps') (name : String) :
    (provided ps).find? key name = (provided ps').find? key name := by
  simp only [find?_eq_or, at?_provided, ← h.own name]
  by_cases hn : given ps name (some key) = []
  · rw [h.shared name hn]
  · obtain ⟨service, hs⟩ := Option.ne_none_iff_exists'.mp (List.getLast?_eq_none_iff.not.mpr hn)
    rw [hs, Option.some_or, Option.some_or]

lemma Alike.scope_find {ps ps' : List (Provision κ)} (h : Alike key ps ps') (name : String) :
    (provided ps).scope.find key name = (provided ps').scope.find key name := by
  simp only [scope, h.find?_eq name]

end Services

variable {scope scope' : Scope κ} {key : String}

lemma Scope.findAll_congr (h : ∀ name, scope.find key name = scope'.find key name) (names : List String) :
    scope.findAll key names = scope'.findAll key names := by
  induction names with
  | nil => rfl
  | cons name rest ih => rw [findAll, findAll, h name, ih]

lemma Hook.resolve_congr {α β : Type} (h : ∀ name, scope.find key name = scope'.find key name) (hook : Hook κ α β) :
    hook.resolve scope key = hook.resolve scope' key := by
  cases hook with
  | direct routine => rfl
  | bound label needs assemble => rw [resolve, resolve, Scope.findAll_congr h needs]

structure Env.Alike (env env' : Env κ) : Prop where
  book : env.book = env'.book
  thread : env.thread = env'.thread
  limit : env.limit = env'.limit
  find : ∀ name, env.scope.find env.thread.uid name = env'.scope.find env.thread.uid name

namespace Machine

variable {env env' : Env κ} {α β : Type}

lemma contextOf_alike (h : env.Alike env') : contextOf env = contextOf env' := by
  funext f
  rw [contextOf, contextOf, h.book, h.thread]

lemma context_alike (h : env.Alike env') : context env = context env' := by
  rw [context, context, contextOf_alike h]

lemma resolve_alike (h : env.Alike env') (hook : Hook κ α β) : resolve env hook = resolve env' hook := by
  rw [resolve, resolve, Hook.resolve_congr h.find hook, h.thread]

lemma evaluate_alike (h : env.Alike env') (hook : Hook κ Context β) : evaluate env hook = evaluate env' hook := by
  rw [evaluate, evaluate, resolve_alike h, context_alike h]

lemma evaluate?_alike (h : env.Alike env') (hook : Option (Hook κ Context β)) :
    evaluate? env hook = evaluate? env' hook := by
  cases hook with
  | none => rfl
  | some hook => rw [evaluate?, evaluate?, evaluate_alike h]

lemma absorb_alike (h : env.Alike env') (store : Option (Update κ)) (input : Option Value) :
    absorb env store input = absorb env' store input := by
  cases store with
  | none => rfl
  | some hook => simp only [absorb, resolve_alike h, context_alike h]

lemma advance_alike (h : env.Alike env') (offset : Int64) : advance env offset = advance env' offset := by
  rw [advance, advance, h.book]

lemma complete_alike (h : env.Alike env') (value : Option Value) : complete env value = complete env' value := by
  simp only [complete, h.book, absorb_alike h]

lemma effect_alike (h : env.Alike env') (store : Option (Query κ)) (emit : Option (Update κ)) :
    effect env store emit = effect env' store emit := by
  simp only [effect, evaluate?_alike h, resolve_alike h, context_alike h, advance_alike h]

lemma dispatch_alike (h : env.Alike env') (c : Command κ) : dispatch env c = dispatch env' c := by
  cases c with
  | say content => simp only [dispatch, say, evaluate_alike h, advance_alike h]
  | ask key store => rfl
  | call key callee entry params store => simp only [dispatch, call, evaluate?_alike h, h.book]
  | jump offset => exact advance_alike h offset
  | branch condition negated offset => simp only [dispatch, branch, evaluate_alike h, advance_alike h]
  | finish value => simp only [dispatch, finish, evaluate?_alike h, complete_alike h]
  | effect store emit => exact effect_alike h store emit

lemma count_alike (h : env.Alike env') : count env = count env' := by
  funext m
  rw [count, count, h.limit]

lemma next?_alike (h : env.Alike env') : next? env = next? env' := by
  funext m
  rw [next?, next?, h.book]

lemma step_alike (h : env.Alike env') : step env = step env' := by
  have hd : dispatch env = dispatch env' := funext (dispatch_alike h)
  rw [step, step, count_alike h, next?_alike h, hd, complete_alike h]

lemma run_alike (h : env.Alike env') (fuel : Nat) : run env fuel = run env' fuel := by
  induction fuel with
  | zero => rfl
  | succ fuel ih =>
    funext m
    rw [run, run, step_alike h, ih]

end Machine

namespace Turn

variable {env env' : Env κ}

lemma enter_alike (h : env.Alike env') (stack : CallStack) (entry : Entry) :
    enter env stack entry = enter env' stack entry := by
  cases entry with
  | fresh => rw [enter, enter, h.book]
  | resume input => simp only [enter, h.book, Machine.answer, Machine.absorb_alike h]

lemma play_alike (h : env.Alike env') (fuel : Nat) (stack : CallStack) (entry : Entry) :
    play env fuel stack entry = play env' fuel stack entry := by
  rw [play, play, enter_alike h, Machine.run_alike h]

theorem play_isolated {ps ps' : List (Provision κ)} (book : Playbook κ) (thread : Thread) (limit : Option Nat)
    (fuel : Nat) (stack : CallStack) (entry : Entry) (h : Services.Alike thread.uid ps ps') :
    play ⟨book, (Services.provided ps).scope, thread, limit⟩ fuel stack entry =
      play ⟨book, (Services.provided ps').scope, thread, limit⟩ fuel stack entry := by
  apply play_alike
  exact ⟨rfl, rfl, rfl, h.scope_find⟩

def quietBar : List (Provision .common) := [
  ⟨"menu", none, ⟨CommonKind.menu, Coffee.defaultMenu⟩⟩,
  ⟨"menu", some "ann", ⟨CommonKind.menu, ["mate"]⟩⟩,
  ⟨"till", none, ⟨CommonKind.int, (3 : Int)⟩⟩]

def busyBar : List (Provision .common) := [
  ⟨"till", none, ⟨CommonKind.int, (3 : Int)⟩⟩,
  ⟨"menu", some "bob", ⟨CommonKind.text, "closed"⟩⟩,
  ⟨"menu", some "ann", ⟨CommonKind.menu, ["mate"]⟩⟩,
  ⟨"till", some "bob", ⟨CommonKind.flag, true⟩⟩,
  ⟨"menu", none, ⟨CommonKind.menu, ["water"]⟩⟩]

theorem menu_play_isolated :
    Services.Alike "ann" quietBar busyBar ∧
    play ⟨Coffee.book, (Services.provided quietBar).scope, ⟨"cli", "ann"⟩, some 9⟩ 9
        (.root Coffee.book Coffee.root none) .fresh =
      play ⟨Coffee.book, (Services.provided busyBar).scope, ⟨"cli", "ann"⟩, some 9⟩ 9
        (.root Coffee.book Coffee.root none) .fresh := by
  have h : Services.Alike "ann" quietBar busyBar := by
    constructor
    · intro name
      by_cases hm : "menu" = name <;> simp [quietBar, busyBar, Services.given, hm]
    · intro name
      by_cases hm : "menu" = name <;>
        simp [quietBar, busyBar, Services.given, List.filter_cons, hm]
  exact ⟨h, play_isolated Coffee.book ⟨"cli", "ann"⟩ (some 9) 9 _ .fresh h⟩

end Turn

end Dialogue
