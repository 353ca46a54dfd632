import Dialogue.Proofs.Isolation

/-! A bound hook gets the services that it names, in their order: of each name the latest one that its conversation
can see. -/

namespace Dialogue

variable {κ : Kinds}

namespace Services

def due? (ps : List (Provision κ)) (key name : String) : Option (Service κ) :=
  (given ps name (some key)).getLast?.or (given ps name none).getLast?

lemma find?_provided (ps : List (Provision κ)) (key : String) : (provided ps).find? key = due? ps key := by
  funext name
  rw [find?_eq_or, at?_provided, at?_provided, due?]

variable {services : Services κ} {key name : String} {names : List String}

lemma findAll_of_found (h : ∀ name ∈ names, (services.find? key name).isSome) :
    ∃ found, services.scope.findAll key names = .ok found ∧ names.map (services.find? key) = found.map some := by
  induction names with
  | nil => exact ⟨[], rfl, rfl⟩
  | cons name rest ih =>
    obtain ⟨hname, hrest⟩ := List.forall_mem_cons.mp h
    obtain ⟨service, hs⟩ := Option.isSome_iff_exists.mp hname
    obtain ⟨found, hf, hm⟩ := ih hrest
    have hfind : services.scope.find key name = .ok service := by simp only [scope, hs]
    refine ⟨service :: found, by simp only [Scope.findAll, hfind, hf], ?_⟩
    rw [List.map_cons, List.map_cons, hs, hm]

lemma findAll_of_missing (h : names.find? (fun name => (services.find? key name).isNone) = some name) :
    services.scope.findAll key names = .error (.notProvided name) := by
  induction names with
  | nil => cases h
  | cons name' rest ih =>
    cases hs : services.find? key name' with
    | none =>
      have hfind : services.scope.find key name' = .error (.notProvided name') := by simp only [scope, hs]
      simp only [List.find?_cons, hs, Option.isNone_none, Option.some.injEq] at h
      subst h
      simp only [Scope.findAll, hfind]
    | some service =>
      have hfind : services.scope.find key name' = .ok service := by simp only [scope, hs]
      simp only [List.find?_cons, hs, Option.isNone_some] at h
      simp only [Scope.findAll, hfind, ih h]

end Services

namespace Dependencies

variable {names : List String} {services : List (Service κ)} {find : String → Option (Service κ)}
  {key name : String} {service : Service κ} {kind : κ.Kind} {index : Nat}

lemma services_getElem? (h : names.map find = services.map some) : services[index]? = names[index]?.bind find := by
  have hi := congrArg (fun l => l[index]?) h
  simp only [List.getElem?_map] at hi
  cases hn : names[index]? with
  | none => simpa [hn, eq_comm] using hi
  | some name =>
    rw [hn] at hi
    cases hs : services[index]? with
    | none => simp [hs] at hi
    | some service => simpa [hs, eq_comm] using hi

lemma get_of_le (h : names.map find = services.map some) (hi : names.length ≤ index) :
    get ⟨names, services, key⟩ index kind = .error (.noDependency index) := by
  have hs : services[index]? = none := by
    rw [services_getElem? h, List.getElem?_eq_none hi]
    rfl
  simp only [get, hs]

lemma get_of_kind {content : κ.Carrier kind} (h : names.map find = services.map some)
    (hn : names[index]? = some name) (hs : find name = some ⟨kind, content⟩) :
    get ⟨names, services, key⟩ index kind = .ok content := by
  have hi : services[index]? = some ⟨kind, content⟩ := by rw [services_getElem? h, hn, Option.bind_some, hs]
  simp [get, hi]

lemma get_of_ne (h : names.map find = services.map some) (hn : names[index]? = some name)
    (hs : find name = some service) (hk : service.kind ≠ kind) :
    get ⟨names, services, key⟩ index kind = .error (.wrongKind name (κ.name kind)) := by
  have hi : services[index]? = some service := by rw [services_getElem? h, hn, Option.bind_some, hs]
  simp [get, hi, hn, hk]

lemma get_eq_ok_iff {content : κ.Carrier kind} (h : names.map find = services.map some) :
    get ⟨names, services, key⟩ index kind = .ok content ↔
      ∃ name, names[index]? = some name ∧ find name = some ⟨kind, content⟩ := by
  constructor
  · intro hg
    cases hn : names[index]? with
    | none =>
      rw [get_of_le h (List.getElem?_eq_none_iff.mp hn)] at hg
      cases hg
    | some name =>
      have hm : find name ∈ services.map some := h ▸ List.mem_map_of_mem (List.mem_of_getElem? hn)
      obtain ⟨⟨own, c⟩, -, hs⟩ := List.mem_map.mp hm
      by_cases hk : own = kind
      · subst hk
        rw [get_of_kind h hn hs.symm] at hg
        cases hg
        exact ⟨name, rfl, hs.symm⟩
      · rw [get_of_ne h hn hs.symm hk] at hg
        cases hg
  · rintro ⟨name, hn, hs⟩
    exact get_of_kind h hn hs

end Dependencies

namespace Hook

variable {α β : Type}

theorem resolve_gives_due (ps : List (Provision κ)) (key : String) (label : Option String) (needs : List String)
    (assemble : Dependencies κ → Except ServiceError (α → Except String β)) :
    (∀ name, needs.find? (fun name => (Services.due? ps key name).isNone) = some name →
      (bound label needs assemble).resolve (Services.provided ps).scope key =
        ([], .error (.notProvided name))) ∧
    ((∀ name ∈ needs, (Services.due? ps key name).isSome) →
      ∃ services, needs.map (Services.due? ps key) = services.map some ∧
        (bound label needs assemble).resolve (Services.provided ps).scope key =
          ([.resolved label], (assemble ⟨needs, services, key⟩).map fun run => ⟨label, run⟩) ∧
        ∀ index kind,
          (∀ content, Dependencies.get ⟨needs, services, key⟩ index kind = .ok content ↔
            ∃ name, needs[index]? = some name ∧ Services.due? ps key name = some ⟨kind, content⟩) ∧
          (needs.length ≤ index →
            Dependencies.get ⟨needs, services, key⟩ index kind = .error (.noDependency index)) ∧
          ∀ name service, needs[index]? = some name → Services.due? ps key name = some service →
            service.kind ≠ kind →
            Dependencies.get ⟨needs, services, key⟩ index kind = .error (.wrongKind name (κ.name kind))) := by
  rw [← Services.find?_provided]
  constructor
  · intro name h
    rw [resolve, Services.findAll_of_missing h]
  · intro h
    obtain ⟨services, hf, hm⟩ := Services.findAll_of_found h
    refine ⟨services, hm, by rw [resolve, hf], fun index kind => ⟨fun content => ?_, ?_, ?_⟩⟩
    · exact Dependencies.get_eq_ok_iff hm
    · exact Dependencies.get_of_le hm
    · intro name service hn hs hk
      exact Dependencies.get_of_ne hm hn hs hk

def readTill (services : Dependencies .common) : Except ServiceError (Unit → Except String Bool) :=
  (services.get 1 CommonKind.flag).map fun till _ => .ok till

theorem guest_resolve_gives_due :
    (∃ services, ["menu", "till", "menu"].map (Services.due? Turn.busyBar "bob") = services.map some ∧
      (bound none ["menu", "till", "menu"] readTill).resolve (Services.provided Turn.busyBar).scope "bob" =
        ([.resolved none], (readTill ⟨["menu", "till", "menu"], services, "bob"⟩).map fun run => ⟨none, run⟩) ∧
      Dependencies.get ⟨["menu", "till", "menu"], services, "bob"⟩ 1 CommonKind.flag = .ok true ∧
      Dependencies.get ⟨["menu", "till", "menu"], services, "bob"⟩ 2 CommonKind.menu =
        .error (.wrongKind "menu" "parley_core::demo::Menu")) ∧
    (bound none ["till", "door", "lock"] readTill).resolve (Services.provided Turn.busyBar).scope "bob" =
      ([], .error (.notProvided "door")) := by
  have hmenu : Services.due? Turn.busyBar "bob" "menu" = some ⟨CommonKind.text, "closed"⟩ := rfl
  have htill : Services.due? Turn.busyBar "bob" "till" = some ⟨CommonKind.flag, true⟩ := rfl
  obtain ⟨-, hok⟩ := resolve_gives_due Turn.busyBar "bob" none ["menu", "till", "menu"] readTill
  obtain ⟨herr, -⟩ := resolve_gives_due Turn.busyBar "bob" none ["till", "door", "lock"] readTill
  obtain ⟨services, hm, hr, hget⟩ := hok (by simp [hmenu, htill])
  refine ⟨⟨services, hm, hr, ?_, ?_⟩, herr "door" rfl⟩
  · exact ((hget 1 CommonKind.flag).1 _).mpr ⟨"till", rfl, htill⟩
  · exact (hget 2 CommonKind.menu).2.2 "menu" _ rfl hmenu (by rintro ⟨⟩)

end Hook

end Dialogue
