import InjectionPlan.Proofs.BulkExpansion

/-! # Closed rules as restrictions of open ones

    A rule for a closed contract such as `IFeed<Order>` looks for the first interface of this
    name, one for the open contract `IFeed<>` takes all forms of the definition.  The two
    have the same candidates and search the same interfaces, and the name of a form is what
    it is registered under.  So for types without parameters the closed rule contributes
    exactly what the open one contributes under the name of the closed contract
    (`closed_rule_restricts`).
-/

namespace InjectionPlan

open TypeExpr

variable {s : Snapshot} {d : Declaration} {t : TypeExpr} {r : Rule} {n : UInt64}

/-! ### The open rule -/

namespace Rule

/-- The rule with `n` arguments of its contract erased. -/
def opened (r : Rule) (n : UInt64) : Rule := { r with contract := .erase r.contract.head n }

theorem familyName_opened (hn : r.contract.arity = n.toNat) :
    (r.opened n).contract.familyName = r.contract.familyName := by
  apply familyName_congr
  · rw [opened, definitionName, head_erase]
    rfl
  · rw [opened, arity_erase, hn]

/-- Erasing the arguments changes neither the candidates nor whether the contract is an
interface. -/
theorem candidates_opened (s : Snapshot) (hn : r.contract.arity = n.toNat) :
    (r.opened n).candidates s = r.candidates s := by
  rw [candidates, candidates, familyName_opened hn]

theorem isInterface_opened (s : Snapshot) (hn : r.contract.arity = n.toNat) :
    (r.opened n).isInterface s = r.isInterface s := by
  have hkind : (r.opened n).contract.isInterface = r.contract.isInterface := by
    rw [opened, TypeExpr.isInterface, kind, head_erase]
    rfl
  rw [isInterface, isInterface, Snapshot.find?_congr (familyName_opened hn), hkind]

/-- The closed contract covers, of what the open one covers, the references of its own name. -/
theorem covers_iff_opened (hc : r.contract.WellNamed) (hclosed : r.contract.isOpen = false)
    (hn : r.contract.arity = n.toNat) (hpos : 0 < n.toNat) (ht : t.WellNamed) :
    r.contract.covers t = true ↔
      (r.opened n).contract.covers t = true ∧ t.qualifiedName = r.contract.qualifiedName := by
  have hopen : (r.opened n).contract.isOpen = true := isOpen_erase _ hpos
  rw [covers_iff_of_closed hclosed, covers_iff_of_isOpen hopen, familyName_opened hn]
  constructor
  · intro hname
    have hfamily := familyName_eq_of_qualifiedName_eq ht hc hname
    have hgeneric : r.contract.isGeneric = true := decide_eq_true (hn ▸ hpos)
    exact ⟨⟨by rw [ht.isGeneric_congr hc hfamily, hgeneric], hfamily⟩, hname⟩
  · rintro ⟨-, hname⟩
    exact hname

/-- A type without parameters is registered by the closed rule as by the open one, under the
name of the closed contract only. -/
theorem registrationsOf_eq_filter_opened (h : Host) (hs : s.WellNamed) (hu : s.Unbroken)
    (hc : r.contract.WellNamed) (hi : r.isInterface s = true)
    (hclosed : r.contract.isOpen = false) (hn : r.contract.arity = n.toNat) (hpos : 0 < n.toNat)
    (hd : d ∈ s.types) (hg : d.isGeneric = false) :
    r.registrationsOf h s d = ((r.opened n).registrationsOf h s d).filter fun reg =>
      reg.service == some r.contract.qualifiedName := by
  have hi' : (r.opened n).isInterface s = true := (isInterface_opened s hn).trans hi
  -- the matches of the closed rule are those matches of the open one that have its name
  have hmatches : (s.interfacesOf d).filter r.contract.covers =
      ((s.interfacesOf d).filter (r.opened n).contract.covers).filter fun t =>
        some t.qualifiedName == some r.contract.qualifiedName := by
    rw [List.filter_filter]
    apply List.filter_congr
    intro t ht
    obtain ⟨ts, ks, hchain, -⟩ := exists_inherits_of_mem_interfacesOf ht
    rw [Bool.eq_iff_iff, covers_iff_opened hc hclosed hn hpos (hchain.wellNamed hs hd)]
    simp [and_comm]
  rw [registrationsOf_eq_map h hu hd hg hi, registrationsOf_eq_map h hu hd hg hi', hmatches,
    List.filter_map]
  rfl

/-! ### Contributions -/

/-- What the rule registers, each registration with the candidate that it is made for. -/
def contributions (r : Rule) (h : Host) (s : Snapshot) : List (Declaration × Registration) :=
  (r.candidates s).flatMap fun d => (r.registrationsOf h s d).map fun reg => (d, reg)

end Rule

/-- The contributions are the registrations of the marker that states the rule, in order. -/
theorem Expansion.registrations_eq_contributions {m : Marker} (h : Host)
    (hm : Rule.ofMarker? m = some r) :
    (ofMarker h s m).registrations = (r.contributions h s).map Prod.snd := by
  rw [ofMarker, hm, Rule.contributions, List.map_flatMap]
  apply List.flatMap_congr
  intro d _
  rw [List.map_map]
  exact (List.map_id _).symm

/-- In modules without unresolved names, a rule for a closed interface with arguments is the
restriction of the rule for the open one.  For candidates without parameters it contributes,
in order, what the open rule contributes under the name of the closed contract. -/
theorem closed_rule_restricts (h : Host) {s : Snapshot} {m m' : Marker} {r : Rule} {n : UInt64}
    (hs : s.WellNamed) (hu : s.Unbroken) (hm : Rule.ofMarker? m = some r)
    (hm' : Rule.ofMarker? m' = some (r.opened n)) (hc : r.contract.WellNamed)
    (hi : r.isInterface s = true) (hclosed : r.contract.isOpen = false)
    (hn : r.contract.args.length = n.toNat) (hpos : 0 < n.toNat) :
    (Expansion.ofMarker h s m).registrations = (r.contributions h s).map Prod.snd ∧
    (Expansion.ofMarker h s m').registrations = ((r.opened n).contributions h s).map Prod.snd ∧
    (r.contributions h s).filter (fun p => !p.1.isGeneric) =
      ((r.opened n).contributions h s).filter fun p =>
        !p.1.isGeneric && p.2.service == some r.contract.qualifiedName := by
  refine ⟨Expansion.registrations_eq_contributions h hm,
    Expansion.registrations_eq_contributions h hm', ?_⟩
  have harity : r.contract.arity = n.toNat := by
    cases hform : r.contract with
    | plain => rw [hform] at hn; exact hn
    | applied => rw [hform] at hn; exact hn
    | erased => rw [hform] at hclosed; cases hclosed
  rw [Rule.contributions, Rule.contributions, Rule.candidates_opened s harity, List.filter_flatMap,
    List.filter_flatMap]
  -- both rules go through the same candidates, so one candidate is compared at a time
  apply List.flatMap_congr
  intro d hd
  obtain ⟨hmem, -⟩ := Rule.key_ne_of_mem_candidates hd
  rw [List.filter_map, List.filter_map]
  cases hg : d.isGeneric with
  | true =>
    -- nothing is kept of what a generic candidate contributes
    simp [Function.comp_def, hg]
  | false =>
    have hrestricts :=
      Rule.registrationsOf_eq_filter_opened h hs hu hc hi hclosed harity hpos hmem hg
    simp [Function.comp_def, hg, hrestricts]

namespace Feeds

/-- The feed of a type. -/
def feed (t : TypeExpr) : TypeExpr := .apply ⟨"App", "IFeed", .interfaceType⟩ [t]

/-- A message. -/
def message (name : String) : TypeExpr := .plain ⟨"App", name, .classType⟩

/-- A feed of orders and of refunds. -/
def sales : Declaration :=
  { Showcase.cls "App" "Sales" with interfaces := [feed (message "Refund"), feed (message "Order")] }

/-- A module with feeds of different messages, one of them generic. -/
def snapshot : Snapshot where
  name := "App"
  types :=
    [{ Showcase.blank "App" "IFeed" .interfaceType with params := ["T"] },
      { Showcase.cls "App" "Returns" with interfaces := [feed (message "Refund")] },
      { Showcase.cls "App" "Relay" with
        params := ["T"]
        interfaces := [feed (.param "T")] },
      sales]
  rules := []
  faultless := by decide

/-- The rule for the feeds of orders. -/
def rule : Rule := ⟨feed (message "Order"), .transient, false⟩

end Feeds

/-- Of the feeds, the rule for the feeds of orders registers the sales only. -/
theorem Feeds.sales_contributed :
    snapshot.WellNamed ∧ snapshot.Unbroken ∧
      Rule.ofMarker? (.bulkByPosition rule.contract) = some rule ∧
      Rule.ofMarker? (.bulkByPosition (.erase rule.contract.head 1)) = some (rule.opened 1) ∧
      rule.contract.WellNamed ∧ rule.isInterface snapshot = true ∧
      rule.contract.isOpen = false ∧ rule.contract.args.length = (1 : UInt64).toNat ∧
      (sales, ⟨some "App.IFeed<App.Order>", "App.Sales", .transient, none⟩) ∈
        (rule.contributions .microsoft snapshot).filter (fun p => !p.1.isGeneric) ∧
      (rule.contributions .microsoft snapshot).filter (fun p => !p.1.isGeneric) =
        ((rule.opened 1).contributions .microsoft snapshot).filter fun p =>
          !p.1.isGeneric && p.2.service == some "App.IFeed<App.Order>" := by
  have hs : snapshot.WellNamed := by decide
  have hu : snapshot.Unbroken := by decide
  have hc : rule.contract.WellNamed := by decide
  have hfound : snapshot.interfacesOf sales = [feed (message "Refund"), feed (message "Order")] :=
    InterfaceWalk.interfacesOf_eq_iterate 3 rfl
  have hsales : (sales, ⟨some "App.IFeed<App.Order>", "App.Sales", .transient, none⟩) ∈
      rule.contributions .microsoft snapshot := by
    refine List.mem_flatMap.2 ⟨sales, List.mem_of_getElem? (i := 2) rfl, ?_⟩
    rw [Rule.registrationsOf, Rule.matchesOf_of_isInterface _ rfl, hfound]
    exact List.mem_cons_self
  have hm : Rule.ofMarker? (.bulkByPosition rule.contract) = some rule := rfl
  have hm' : Rule.ofMarker? (.bulkByPosition (.erase rule.contract.head 1)) =
      some (rule.opened 1) := rfl
  obtain ⟨-, -, hrestricts⟩ :=
    closed_rule_restricts .microsoft hs hu hm hm' hc rfl rfl rfl (by decide)
  exact ⟨hs, hu, hm, hm', hc, rfl, rfl, rfl, List.mem_filter.2 ⟨hsales, rfl⟩, hrestricts⟩

end InjectionPlan
