import InjectionPlan.Proofs.OpenRegistrations
import InjectionPlan.Proofs.SelfContracts

/-! # The names of a type and its contract

    A type can be registered for one of its interfaces by a marker of its own or by a bulk
    rule.  The marker shows the interface as the type writes it down.  The rule shows it
    as the walk from the type meets it, and a generic type is shown open, with its
    contract (`contract_names`).

    So a type without parameters and its contract go by the same two names, whichever asks
    for the registration.  A generic type does not: what its marker shows applied to the
    type's own parameters, the rule shows with the arguments erased
    (`Repositories.not_all_names_agree`).
-/

namespace InjectionPlan

open TypeExpr

variable {s : Snapshot} {d : Declaration} {r t : TypeExpr} {h : Host} {m m' : Marker}
  {reg : Registration}

namespace Declaration

/-- The reference `t` is `r` as it is written on the type, or as the walk from the type
meets it. -/
def Meets (d : Declaration) (r t : TypeExpr) : Prop :=
  t = r ∨ t = r.substitute (d.bindingAt d.self)

theorem Meets.eq_of_not_isGeneric (hd : d.isGeneric = false) (ht : d.Meets r t) : t = r := by
  rcases ht with ht | ht
  · exact ht
  · rw [ht, bindingAt, isGeneric_eq_false_iff.1 hd]
    exact substitute_nil r

/-- What forwards the parameters of a generic type is a form of what the type writes down. -/
theorem Meets.familyName_eq (hd : d.isGeneric = true) (ht : d.Meets r t)
    (hforwards : d.forwards t = true) : t.familyName = r.familyName := by
  rcases ht with rfl | rfl
  · rfl
  · cases hpar : r.isParameter with
    | false => exact familyName_substitute hpar
    | true =>
      -- a parameter that is bound at the type has no arguments, so it forwards nothing
      have hcases : (∃ b ∈ d.bindingAt d.self, r.substitute (d.bindingAt d.self) = b.2) ∨
          r.substitute (d.bindingAt d.self) = r := substitute_parameter_cases hpar
      rcases hcases with ⟨b, hb, heq⟩ | heq
      · have hbound : b.2 ∈ d.self.args := (List.of_mem_zip hb).2
        rw [args_self] at hbound
        obtain ⟨n, -, hn⟩ := List.mem_map.1 hbound
        have hnone : (r.substitute (d.bindingAt d.self)).args = [] := by
          rw [heq, ← hn]
          rfl
        exact absurd hnone (d.args_ne_nil_of_forwards hd hforwards)
      · rw [heq]

/-- A marker that leaves the contract open shows the first interface by the name under
which it is seen from the type. -/
theorem names_registrationFor (hm : m.contract? = none)
    (hr : (d.contractInterfaces h).head? = some r) (hself : d.isSelf r = false) :
    (d.registrationFor h m).service = some (r.displayName d.ns) ∧
      (d.registrationFor h m).implementation = d.qualifiedName := by
  have hinfer : Contract.infer h d m = .seenFrom d r .interface := by
    simp only [Contract.infer, hm, Contract.implied, hr]
  have hforeign : d.isSelf (Contract.infer h d m).type = false := by
    rw [hinfer]
    exact hself
  rw [registrationFor_of_not_isSelf hforeign, hinfer]
  exact ⟨rfl, rfl⟩

end Declaration

/-- A type is registered for its first interface `r` by a marker that leaves the contract
open, and by a rule that is matched by `r`, as one with the contract `r` is.  If the type
has no parameters, both registrations show the same names.  If it has some and `r` could
be resolved, the marker shows the type and `r` as they are written, and the rule shows
both open. -/
theorem contract_names (hm : m ∈ d.markersOf .register) (himplied : m.contract? = none)
    (hr : (d.contractInterfaces h).head? = some r) (hself : d.isSelf r = false)
    (ht : d.Meets r t) (hreg : s.Registers h m' d t reg) :
    d.registrationFor h m ∈ d.registrations h ∧
    (d.isGeneric = false →
      reg.service = (d.registrationFor h m).service ∧
        reg.implementation = (d.registrationFor h m).implementation) ∧
    (d.isGeneric = true → r.isBroken = false →
      (d.registrationFor h m).service = some r.qualifiedName ∧
        (d.registrationFor h m).implementation = d.qualifiedName ∧
        reg.service = some r.familyName ∧ reg.implementation = d.key) := by
  obtain ⟨hservice, himplementation⟩ := d.names_registrationFor himplied hr hself
  obtain ⟨rule, -, -, -, hrule⟩ := hreg
  refine ⟨List.mem_map_of_mem hm, ?_, ?_⟩
  · intro hd
    rw [Rule.registration?_of_closed hd, ht.eq_of_not_isGeneric hd] at hrule
    obtain rfl := Option.some.inj hrule
    exact ⟨hservice.symm, himplementation.symm⟩
  · intro hd hresolved
    obtain ⟨hforwards, hservice', himplementation'⟩ := Rule.registration?_of_isGeneric hd hrule
    rw [displayName_of_not_broken hresolved] at hservice
    rw [ht.familyName_eq hd hforwards] at hservice'
    exact ⟨hservice, himplementation, hservice', himplementation'⟩

namespace Repositories

/-- The repository of a type. -/
def contract (t : TypeExpr) : TypeExpr := .apply ⟨"App", "IRepository", .interfaceType⟩ [t]

/-- An order. -/
def order : TypeExpr := .plain ⟨"App", "Order", .classType⟩

/-- A class that is the repository of its parameter. -/
def repository : Declaration :=
  { Showcase.cls "App" "Repository" with
    params := ["T"]
    interfaces := [contract (.param "T")]
    markers := [.bare .register] }

/-- A class that is the repository of orders. -/
def orderStore : Declaration :=
  { Showcase.cls "App" "OrderStore" with
    interfaces := [contract order]
    markers := [.bare .register] }

/-- A module with both, each registered by a marker and by a rule. -/
def snapshot : Snapshot where
  name := "App"
  types :=
    [{ Showcase.blank "App" "IRepository" .interfaceType with params := ["T"] },
      repository, orderStore]
  rules := [.bulkByPosition (contract (.param "T")), .bulkByPosition (contract order)]
  faultless := by decide

theorem registers_repository :
    snapshot.Registers .microsoft (.bulkByPosition (contract (.param "T"))) repository
      (contract (.param "T")) ⟨some "App.IRepository<>", "App.Repository<>", .transient, none⟩ := by
  have hfound : snapshot.interfacesOf repository = [contract (.param "T")] :=
    InterfaceWalk.interfacesOf_eq_iterate 2 rfl
  refine Snapshot.registers_of_mem_interfacesOf rfl rfl List.mem_cons_self ?_ (by decide) rfl
  rw [hfound]
  exact List.mem_cons_self

theorem registers_orderStore :
    snapshot.Registers .microsoft (.bulkByPosition (contract order)) orderStore
      (contract order) ⟨some "App.IRepository<App.Order>", "App.OrderStore", .transient, none⟩ := by
  have hfound : snapshot.interfacesOf orderStore = [contract order] :=
    InterfaceWalk.interfacesOf_eq_iterate 2 rfl
  -- the repository is the first candidate, the store the second
  refine Snapshot.registers_of_mem_interfacesOf rfl rfl
    (List.mem_cons_of_mem _ List.mem_cons_self) ?_ (by decide) rfl
  rw [hfound]
  exact List.mem_cons_self

end Repositories

/-- The store of orders and its contract go by the names that the rule shows.  The marker of
the generic repository shows the parameter. -/
theorem Repositories.names_of_both :
    ((orderStore.registrationFor .microsoft (.bare .register)).service =
        some "App.IRepository<App.Order>" ∧
      (orderStore.registrationFor .microsoft (.bare .register)).implementation =
        "App.OrderStore") ∧
    (repository.registrationFor .microsoft (.bare .register)).service =
        some "App.IRepository<T>" ∧
      (repository.registrationFor .microsoft (.bare .register)).implementation =
        "App.Repository<T>" := by
  obtain ⟨-, hstore, -⟩ := contract_names (m := .bare .register) List.mem_cons_self rfl rfl
    (by decide) (.inl rfl) registers_orderStore
  obtain ⟨-, -, hrepository⟩ := contract_names (m := .bare .register) List.mem_cons_self rfl rfl
    (by decide) (.inl rfl) registers_repository
  obtain ⟨hservice, himplementation⟩ := hstore rfl
  obtain ⟨hservice', himplementation', -⟩ := hrepository rfl rfl
  have hcontract : (contract (.param "T")).qualifiedName = "App.IRepository<T>" := by decide
  have hrepositoryName : repository.qualifiedName = "App.Repository<T>" := by decide
  rw [hservice', himplementation', hcontract, hrepositoryName]
  exact ⟨⟨hservice.symm, himplementation.symm⟩, rfl, rfl⟩

/-- The marker shows the generic repository applied to its parameter, the rule shows it
open. -/
theorem Repositories.not_all_names_agree :
    ¬ ∀ (h : Host) (s : Snapshot) (d : Declaration) (m m' : Marker) (r : TypeExpr)
      (reg : Registration), d ∈ s.types → m ∈ d.markersOf .register → m.contract? = none →
      (d.contractInterfaces h).head? = some r → d.isSelf r = false → m'.contract? = some r →
      s.Registers h m' d r reg →
      reg.service = (d.registrationFor h m).service ∧
        reg.implementation = (d.registrationFor h m).implementation := by
  intro hagree
  have hnames := hagree .microsoft snapshot repository (.bare .register) _ _ _
    (List.mem_cons_of_mem _ List.mem_cons_self) List.mem_cons_self rfl rfl (by decide) rfl
    registers_repository
  have himplementation : (repository.registrationFor .microsoft (.bare .register)).implementation =
      "App.Repository<T>" := by decide
  rw [himplementation] at hnames
  exact absurd hnames.2 (by decide)

end InjectionPlan
