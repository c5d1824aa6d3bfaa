import InjectionPlan.Block.Basic
import InjectionPlan.Proofs.BulkExpansion
import InjectionPlan.Showcase.Shop

/-! # Contracts that are the type itself

    A marked type can come out as its own contract: a marker names it, or the type has
    nothing else to offer.  A registration then leaves the service out, and a decoration
    is skipped.  Bulk rules pass over the declaration of their contract.

    - `collapse_alike`: a registration leaves the service out exactly when the contract is
      the type itself, although it compares the names that it shows only, and a decoration
      with the same arguments is skipped in the same cases;
    - `identity_agrees`: if names can be read back, a resolved contract is the type itself
      exactly when it is a form of the type, which is what bulk rules ask.
-/

namespace InjectionPlan

open TypeExpr

variable {s : Snapshot} {d : Declaration} {c t : TypeExpr} {h : Host} {m : Marker}

/-! ### The names of a registration -/

/-- Whatever rule has given a contract, it is shown by its display name. -/
theorem Contract.name_infer (h : Host) (d : Declaration) (m : Marker) :
    (infer h d m).name = (infer h d m).type.displayName d.ns := by
  have hself : d.qualifiedName = d.self.displayName d.ns := by
    have hkind : d.self.isBroken = false := by
      rw [isBroken, TypeExpr.kind, d.head_self, Declaration.head]
      cases d.kind <;> rfl
    rw [displayName_of_not_broken hkind]
    rfl
  have himplied : (implied h d).name = (implied h d).type.displayName d.ns := by
    unfold implied
    split
    · rfl
    · split
      · rfl
      · exact hself
  unfold infer
  split
  · rfl
  · exact himplied

namespace Declaration

/-- A contract that is shown under the name of the type is the type itself. -/
theorem displayName_ne_of_isSelf_eq_false (hself : d.isSelf t = false) :
    t.displayName d.ns ≠ d.qualifiedName := by
  intro hname
  simp [isSelf, hname] at hself

/-- A type that is its own contract is registered under the name of the contract alone. -/
theorem registrationFor_of_isSelf (hself : d.isSelf (Contract.infer h d m).type = true) :
    d.registrationFor h m =
      ⟨none, (Contract.infer h d m).name, m.lifetime, m.serviceName?⟩ := by
  simp [registrationFor, Registration.make, hself]

/-- All other types are registered under their own name, for the name of the contract. -/
theorem registrationFor_of_not_isSelf (hself : d.isSelf (Contract.infer h d m).type = false) :
    d.registrationFor h m =
      ⟨some (Contract.infer h d m).name, d.qualifiedName, m.lifetime, m.serviceName?⟩ := by
  have hname := displayName_ne_of_isSelf_eq_false hself
  rw [← Contract.name_infer] at hname
  simp [registrationFor, Registration.make, hself, hname]

end Declaration

/-! ### Registrations and decorations -/

/-- The marker that asks for a decoration with the same arguments. -/
def Marker.toDecorate (m : Marker) : Marker := { m with kind := .decorate }

/-- The type with other markers on it. -/
def Declaration.withMarkers (d : Declaration) (ms : List Marker) : Declaration :=
  { d with markers := ms }

/-- What the first decorate marker asks for is what it would ask for on the type as it is. -/
theorem Declaration.decorated?_withMarkers {before after : List Marker}
    (hfirst : ∀ k ∈ before, k.kind ≠ .decorate) :
    (d.withMarkers (before ++ m.toDecorate :: after)).decorated? h =
      some (Contract.infer h d m) := by
  have hbefore : before.filter (·.kind == .decorate) = [] := by
    rw [List.filter_eq_nil_iff]
    intro k hk
    simpa using hfirst k hk
  have hmarkers : ((d.withMarkers (before ++ m.toDecorate :: after)).markersOf .decorate).head? =
      some m.toDecorate := by
    rw [markersOf, withMarkers, List.filter_append, hbefore, List.nil_append,
      List.filter_cons_of_pos (by rfl), List.head?_cons]
  rw [decorated?, hmarkers]
  rfl

/-- Let `m` be a register marker on a type.  Its registration leaves the service out exactly
when the contract is the type itself.  Otherwise the service is the display name of the
contract, the implementation is the type's own name, and the two differ.  If a decorate
marker with the same arguments stands in the place of `m`, and no other one before it, the
type asks for no decoration in the same cases, and else for the decoration of the same
service by the same implementation. -/
theorem collapse_alike (h : Host) {before after : List Marker}
    (hmarkers : d.markers = before ++ m :: after) (hkind : m.kind = .register) :
    d.registrationFor h m ∈ d.registrations h ∧
    ((d.registrationFor h m).service = none ↔ d.isSelf (Contract.infer h d m).type = true) ∧
    (∀ name, (d.registrationFor h m).service = some name →
      name = (Contract.infer h d m).type.displayName d.ns ∧
      name ≠ (d.registrationFor h m).implementation ∧
      (d.registrationFor h m).implementation = d.qualifiedName) ∧
    ((∀ k ∈ before, k.kind ≠ .decorate) →
      (d.withMarkers (before ++ m.toDecorate :: after)).decoration? h =
        (d.registrationFor h m).service.map fun name =>
          ⟨name, (d.registrationFor h m).implementation⟩) := by
  have hmem : m ∈ d.markersOf .register := by
    rw [Declaration.markersOf, hmarkers]
    exact List.mem_filter.2 ⟨List.mem_append_right _ List.mem_cons_self, by simp [hkind]⟩
  have hdecoration (hfirst : ∀ k ∈ before, k.kind ≠ .decorate) :
      (d.withMarkers (before ++ m.toDecorate :: after)).decoration? h =
        if d.isSelf (Contract.infer h d m).type then none
        else some ⟨(Contract.infer h d m).name, d.qualifiedName⟩ := by
    rw [Declaration.decoration?, Declaration.decorated?_withMarkers hfirst]
    rfl
  refine ⟨List.mem_map_of_mem hmem, ?_⟩
  cases hself : d.isSelf (Contract.infer h d m).type with
  | true =>
    rw [Declaration.registrationFor_of_isSelf hself]
    refine ⟨by simp, by simp, ?_⟩
    intro hfirst
    rw [hdecoration hfirst, hself]
    rfl
  | false =>
    have hname := Declaration.displayName_ne_of_isSelf_eq_false hself
    rw [Declaration.registrationFor_of_not_isSelf hself]
    refine ⟨by simp, ?_, ?_⟩
    · rintro name hservice
      obtain rfl := Option.some.inj hservice
      rw [Contract.name_infer]
      exact ⟨rfl, hname, rfl⟩
    · intro hfirst
      rw [hdecoration hfirst, hself]
      rfl

namespace Pools

/-- A pool of something. -/
def poolOf (t : TypeExpr) : TypeExpr := .apply ⟨"App", "Pool", .classType⟩ [t]

/-- The interface of a pool. -/
def contract (t : TypeExpr) : TypeExpr := .apply ⟨"App", "IPool", .interfaceType⟩ [t]

/-- An order. -/
def order : TypeExpr := .plain ⟨"App", "Order", .classType⟩

/-- Register the pool of orders. -/
def ofOrders : Marker := (Marker.bare .register).edits [.contract (poolOf order)]

/-- A generic pool that is registered as the pool of orders and for its interface. -/
def pool : Declaration :=
  { Showcase.cls "App" "Pool" with
    params := ["T"]
    interfaces := [contract (.param "T")]
    markers := [ofOrders, .bare .register] }

/-- A module with the pool. -/
def snapshot : Snapshot where
  name := "App"
  types := [pool]
  rules := []
  faultless := by decide

end Pools

/-- The pool of orders is the generic pool itself, so it is registered without a service
and decorates nothing; for its interface the pool does both. -/
theorem Pools.collapse :
    (pool.markers = [] ++ ofOrders :: [.bare .register] ∧
      (pool.registrationFor .microsoft ofOrders).service = none ∧
      (pool.withMarkers [ofOrders.toDecorate, .bare .register]).decoration? .microsoft = none) ∧
    pool.markers = [ofOrders] ++ .bare .register :: [] ∧
      (pool.withMarkers [ofOrders, (Marker.bare .register).toDecorate]).decoration? .microsoft =
        some ⟨"App.IPool<T>", "App.Pool<T>"⟩ := by
  have hself : pool.isSelf (Contract.infer .microsoft pool ofOrders).type = true := by decide
  have hforeign : pool.isSelf (Contract.infer .microsoft pool (.bare .register)).type = false := by
    decide
  have hown : pool.markers = [] ++ ofOrders :: [.bare .register] := rfl
  have hother : pool.markers = [ofOrders] ++ .bare .register :: [] := rfl
  obtain ⟨-, hnone, -, hreplaced⟩ := collapse_alike .microsoft hown rfl
  have hskipped := hreplaced (by simp)
  obtain ⟨-, -, -, hreplaced⟩ := collapse_alike .microsoft hother rfl
  have hpaired := hreplaced (by decide)
  have hservice := hnone.2 hself
  rw [hservice] at hskipped
  rw [Declaration.registrationFor_of_not_isSelf hforeign] at hpaired
  refine ⟨⟨hown, hservice, hskipped⟩, hother, hpaired.trans ?_⟩
  decide

/-! ### Two notions of identity -/

/-- A name without brackets is the same with its arguments erased. -/
theorem TypeExpr.WellNamed.qualifiedName_eq_familyName (ht : t.WellNamed)
    (hg : t.isGeneric = false) : t.qualifiedName = t.familyName := by
  have hplain : t = plain t.head := by
    by_contra hform
    rw [isGeneric, decide_eq_true (arity_pos ht.self.2 hform)] at hg
    cases hg
  rw [familyName, hg, hplain]
  exact (String.append_empty).symm

/-- If names can be read back, a resolved contract is the type itself exactly when it is a
form of the type. -/
theorem Declaration.isSelf_iff (hself : d.self.WellNamed) (hc : c.WellNamed)
    (hresolved : c.isBroken = false) : d.isSelf c = true ↔ c.familyName = d.key := by
  rw [isSelf, displayName_of_not_broken hresolved, Bool.or_eq_true, Bool.and_eq_true,
    Bool.and_eq_true, beq_iff_eq, beq_iff_eq]
  constructor
  · rintro (hname | ⟨-, hkey⟩)
    · exact (familyName_eq_of_qualifiedName_eq hself hc hname).symm
    · exact hkey.symm
  · intro hkey
    have hforms : d.isGeneric = c.isGeneric := hself.isGeneric_congr hc hkey.symm
    cases hg : c.isGeneric with
    | true => exact .inr ⟨⟨hforms.trans hg, rfl⟩, hkey.symm⟩
    | false =>
      -- without arguments there is one form only
      refine .inl ?_
      have hd := hself.qualifiedName_eq_familyName (hforms.trans hg)
      exact hd.trans (hkey.symm.trans (hc.qualifiedName_eq_familyName hg).symm)

/-- If the names of a declared type and of a resolved contract can be read back, the contract
is the type itself exactly when it has the key of the type, that is, when it finds the
declaration of the type.  So a bulk rule for the contract passes over no other concrete type
than those for which a marker with this contract collapses. -/
theorem identity_agrees (hd : d ∈ s.types) (hself : d.self.WellNamed) (hc : c.WellNamed)
    (hresolved : c.isBroken = false) :
    (d.isSelf c = true ↔ c.familyName = d.key) ∧
    (d.isSelf c = true ↔ s.find? c = some d) ∧
    ∀ r : Rule, r.contract = c →
      (d ∈ r.candidates s ↔ d.isAbstract = false ∧ d.isSelf c = false) := by
  have hiff := Declaration.isSelf_iff hself hc hresolved
  refine ⟨hiff, ?_, ?_⟩
  · rw [hiff, Snapshot.find?_eq_some_iff]
    exact ⟨fun hkey => ⟨hd, hkey.symm⟩, fun hfound => hfound.2.symm⟩
  · rintro r rfl
    have hforeign : d.isSelf r.contract = false ↔ d.key ≠ r.contract.familyName := by
      rw [← Bool.not_eq_true, hiff, ne_comm]
    rw [Rule.candidates, List.mem_filter, hforeign]
    simp [hd]

/-- The pool of orders is a form of the pool, so it finds the pool, and a rule for it passes
over the pool. -/
theorem Pools.identity :
    pool ∈ snapshot.types ∧ pool.self.WellNamed ∧ (poolOf order).WellNamed ∧
      (poolOf order).isBroken = false ∧ pool.isSelf (poolOf order) = true ∧
      snapshot.find? (poolOf order) = some pool ∧
      pool ∉ Rule.candidates ⟨poolOf order, .transient, false⟩ snapshot := by
  have hd : pool ∈ snapshot.types := List.mem_cons_self
  have hself : pool.self.WellNamed := by decide
  have hc : (poolOf order).WellNamed := by decide
  have hsame : pool.isSelf (poolOf order) = true := by decide
  obtain ⟨-, hfind, hrules⟩ := identity_agrees hd hself hc rfl
  refine ⟨hd, hself, hc, rfl, hsame, hfind.1 hsame, ?_⟩
  rw [hrules _ rfl, hsame]
  simp

end InjectionPlan
