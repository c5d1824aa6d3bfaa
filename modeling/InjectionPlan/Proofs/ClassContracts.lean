import InjectionPlan.Proofs.Hygiene

/-! # What a bulk rule for a class registers

    If the contract is a class and no interface matches, a bulk rule looks for it among the
    bases of each candidate and takes the nearest one that it covers.

    No definition occurs twice among the bases of a type, whatever cycles there are in the
    module, so there is no other base that it could take (`Snapshot.HasBase.unique`).  The
    host's root object is left out of the search, but it is no form of a contract that is
    not the root object itself.  So the search is exact (`Rule.matchingBase?_eq_some_iff`),
    and so are the registrations (`class_registrations_exact`).
-/

namespace InjectionPlan

open TypeExpr

variable {s : Snapshot} {d : Declaration} {t c b : TypeExpr} {r : Rule} {h : Host}

/-! ### Forms of a contract among the bases -/

/-- The reference is a form of the contract; a closed contract has itself only, under its
own name. -/
def TypeExpr.IsFormOf (t c : TypeExpr) : Prop :=
  t.familyName = c.familyName ∧ (c.isOpen = false → t.qualifiedName = c.qualifiedName)

/-- All forms of a definition are the root object, or none is. -/
theorem Host.isRootObject_congr (ht : t.WellNamed) (hc : c.WellNamed)
    (hfamily : t.familyName = c.familyName) : h.isRootObject t = h.isRootObject c := by
  rw [isRootObject, isRootObject, definitionName_eq_of_familyName_eq ht hc hfamily]

/-- What the search among the bases finds is a base that is a form of the contract. -/
theorem Rule.isFormOf_of_matchingBase? (hs : s.WellNamed) (hc : r.contract.WellNamed)
    (hd : d ∈ s.types) (hb : r.matchingBase? h s d = some b) :
    s.HasBase d b ∧ b.IsFormOf r.contract := by
  have hmem := (List.mem_filter.1 (List.mem_of_find?_eq_some hb)).1
  have hbase := (Snapshot.mem_basesOf_iff hd).1 hmem
  exact ⟨hbase, (covers_iff hc (hbase.wellNamed hs hd)).1 (List.find?_some hb)⟩

/-- The search among the bases finds the base that is a form of the contract, if there is
one. -/
theorem Rule.matchingBase?_eq_some_iff (hs : s.WellNamed) (hc : r.contract.WellNamed)
    (hroot : h.isRootObject r.contract = false) (hd : d ∈ s.types) :
    r.matchingBase? h s d = some b ↔ s.HasBase d b ∧ b.IsFormOf r.contract := by
  constructor
  · exact Rule.isFormOf_of_matchingBase? hs hc hd
  · rintro ⟨hbase, hform⟩
    have hwell := hbase.wellNamed hs hd
    have hsearched : b ∈ (s.basesOf d).filter fun b => !h.isRootObject b := by
      refine List.mem_filter.2 ⟨(Snapshot.mem_basesOf_iff hd).2 hbase, ?_⟩
      rw [Host.isRootObject_congr hwell hc hform.1, hroot]
      rfl
    have hfound : (r.matchingBase? h s d).isSome = true := by
      rw [matchingBase?, List.find?_isSome]
      exact ⟨b, hsearched, (covers_iff hc hwell).2 hform⟩
    -- something is found, and there is one form only
    obtain ⟨b', hb'⟩ := Option.isSome_iff_exists.1 hfound
    obtain ⟨hbase', hform'⟩ := Rule.isFormOf_of_matchingBase? hs hc hd hb'
    rw [hb', hbase'.unique hbase (hform'.1.trans hform.1.symm)]

/-! ### Registrations for a class -/

/-- If no interface matches, the bases are searched for a contract that is no interface. -/
theorem Rule.matchesOf_of_unmatched (h : Host) (hi : r.isInterface s = false)
    (hnone : ∀ i ∈ s.interfacesOf d, r.contract.covers i = false) :
    r.matchesOf h s d = (r.matchingBase? h s d).toList := by
  have hmatching : r.matchingInterfaces s d = [] := by
    rw [matchingInterfaces_eq_filter, List.filter_eq_nil_iff]
    intro i hmem
    simp [hnone i hmem]
  have hsearch : r.searchesBases s d = true := by
    rw [searchesBases, hmatching, hi]
    rfl
  rw [matchesOf, if_pos hsearch]

/-- A type without parameters is registered for the base that is found. -/
theorem Rule.registrationsOf_of_unmatched (h : Host) (hi : r.isInterface s = false)
    (hnone : ∀ i ∈ s.interfacesOf d, r.contract.covers i = false) (hg : d.isGeneric = false) :
    r.registrationsOf h s d = (r.matchingBase? h s d).toList.map fun b =>
      ⟨some (b.displayName d.ns), d.qualifiedName, r.lifetime,
        if r.namesByType then some d.name else none⟩ := by
  rw [registrationsOf, matchesOf_of_unmatched h hi hnone, ← List.filterMap_eq_map]
  exact List.filterMap_congr fun b _ => registration?_of_closed hg

/-- A rule for a class that no type implements as an interface registers the concrete types,
the contract's own declaration aside, in the order of declaration.  A type without
parameters is registered once at most: if one of its bases, all of them taken until a
definition comes back, is a form of the contract, then for this base, and no other base is a
form of the contract.  If the module is scoped and references agree in arity with their
declarations, this base is closed. -/
theorem class_registrations_exact (h : Host) {s : Snapshot} {m : Marker} {r : Rule}
    (hs : s.WellNamed) (hm : Rule.ofMarker? m = some r) (hc : r.contract.WellNamed)
    (hi : r.isInterface s = false) (hroot : h.isRootObject r.contract = false)
    (hnone : ∀ d ∈ s.types, ∀ i ∈ s.interfacesOf d, ¬ i.IsFormOf r.contract) :
    (Expansion.ofMarker h s m).registrations =
      (s.types.filter fun d => !d.isAbstract && d.key != r.contract.familyName).flatMap
        (r.registrationsOf h s) ∧
    ∀ d ∈ s.types, d.isGeneric = false →
      (r.registrationsOf h s d).length ≤ 1 ∧
      (∀ reg, reg ∈ r.registrationsOf h s d ↔
        ∃ b, s.HasBase d b ∧ b.IsFormOf r.contract ∧
          reg = ⟨some (b.displayName d.ns), d.qualifiedName, m.lifetime,
            if m.namesByType then some d.name else none⟩) ∧
      (∀ b b', s.HasBase d b → s.HasBase d b' → b.familyName = r.contract.familyName →
        b'.familyName = r.contract.familyName → b = b') ∧
      (s.Scoped → s.AritiesAgree → ∀ b, s.HasBase d b → b.Closed) := by
  obtain ⟨c, -, rfl⟩ := Option.map_eq_some_iff.1 hm
  constructor
  · rw [Expansion.ofMarker, hm]
    rfl
  intro d hd hg
  -- what the search compares are names, and these tell the forms of the contract
  have hunmatched : ∀ i ∈ s.interfacesOf d, c.covers i = false := by
    intro i hmem
    obtain ⟨ts, ks, hchain, -⟩ := exists_inherits_of_mem_interfacesOf hmem
    rw [← Bool.not_eq_true, covers_iff hc (hchain.wellNamed hs hd)]
    exact hnone d hd i hmem
  have hregistrations := Rule.registrationsOf_of_unmatched h hi hunmatched hg
  refine ⟨?_, ?_, ?_, ?_⟩
  · rw [hregistrations, List.length_map]
    exact Option.length_toList_le
  · intro reg
    rw [hregistrations, List.mem_map]
    simp only [Option.mem_toList, Rule.matchingBase?_eq_some_iff hs hc hroot hd]
    constructor
    · rintro ⟨b, ⟨hbase, hform⟩, rfl⟩
      exact ⟨b, hbase, hform, rfl⟩
    · rintro ⟨b, hbase, hform, rfl⟩
      exact ⟨b, ⟨hbase, hform⟩, rfl⟩
  · intro b b' hbase hbase' hb hb'
    exact hbase.unique hbase' (hb.trans hb'.symm)
  · rintro hscoped harities b ⟨ts, -, ⟨ks, hchain, -⟩, -⟩
    have hover := hchain.scopedIn hscoped harities hd
    rw [Declaration.isGeneric_eq_false_iff.1 hg] at hover
    exact closed_of_scopedIn_nil hover

namespace Screens

/-- A framed type. -/
def framed (t : TypeExpr) : TypeExpr := .apply ⟨"App", "Framed", .classType⟩ [t]

/-- The screen of a type. -/
def screen (t : TypeExpr) : TypeExpr := .apply ⟨"App", "Screen", .classType⟩ [t]

/-- The panel of a type. -/
def panel (t : TypeExpr) : TypeExpr := .apply ⟨"App", "Panel", .classType⟩ [t]

/-- An order. -/
def order : TypeExpr := .plain ⟨"App", "Order", .classType⟩

/-- The screen of orders. -/
def orderScreen : Declaration :=
  { Showcase.cls "App" "OrderScreen" with base := some (screen order) }

/-- A module in which screens and panels have each other for a base, over ever larger
arguments. -/
def snapshot : Snapshot where
  name := "App"
  types :=
    [orderScreen,
      { Showcase.cls "App" "Screen" with
        params := ["T"]
        base := some (panel (framed (.param "T")))
        declaredAbstract := true },
      { Showcase.cls "App" "Panel" with
        params := ["T"]
        base := some (screen (framed (.param "T"))) }]
  rules := []
  faultless := by decide

/-- Register all screens. -/
def marker : Marker := .bulkByPosition (.erase ⟨"App", "Screen", .classType⟩ 1)

/-- No type of the module has interfaces. -/
theorem interfacesOf_eq_nil (d : Declaration) : snapshot.interfacesOf d = [] := by
  apply List.eq_nil_iff_forall_not_mem.2
  intro i hi
  obtain ⟨ts, hinherits⟩ := exists_inherits_of_mem_interfacesOf hi
  obtain ⟨x, -, hstep⟩ := InterfaceWalk.exists_last_step hinherits
  have hwritten : ∀ e ∈ snapshot.types, e.interfaces = [] := by decide
  cases hstep with
  | toInterface he hmem =>
    rw [Declaration.interfacesAt, hwritten _ (Snapshot.mem_of_find? he)] at hmem
    cases hmem

end Screens

/-- The screen of orders is registered for its base, and not for the larger screen with which
the bases would go on. -/
theorem Screens.registered_once :
    snapshot.WellNamed ∧ orderScreen ∈ snapshot.types ∧
      ∃ r, Rule.ofMarker? marker = some r ∧ r.contract.WellNamed ∧
        r.isInterface snapshot = false ∧ Host.microsoft.isRootObject r.contract = false ∧
        (∀ d ∈ snapshot.types, ∀ i ∈ snapshot.interfacesOf d, ¬ i.IsFormOf r.contract) ∧
        (r.registrationsOf .microsoft snapshot orderScreen).length ≤ 1 ∧
        ⟨some "App.Screen<App.Order>", "App.OrderScreen", .transient, none⟩ ∈
          r.registrationsOf .microsoft snapshot orderScreen ∧
        (screen order).Closed := by
  have hs : snapshot.WellNamed := by decide
  have hd : orderScreen ∈ snapshot.types := List.mem_cons_self
  have hm : Rule.ofMarker? marker =
      some ⟨.erase ⟨"App", "Screen", .classType⟩ 1, .transient, false⟩ := rfl
  have hc : (TypeExpr.erase ⟨"App", "Screen", .classType⟩ 1).WellNamed := by decide
  have hnone : ∀ d ∈ snapshot.types, ∀ i ∈ snapshot.interfacesOf d,
      ¬ i.IsFormOf (.erase ⟨"App", "Screen", .classType⟩ 1) := by
    intro d _ i hi
    rw [interfacesOf_eq_nil] at hi
    cases hi
  obtain ⟨-, hexact⟩ := class_registrations_exact .microsoft hs hm hc rfl (by decide) hnone
  obtain ⟨hlength, hmem, -, hclosed⟩ := hexact orderScreen hd rfl
  have hbase : snapshot.HasBase orderScreen (screen order) := by
    refine ⟨[orderScreen.self], by simp, ?_, ?_⟩
    · exact descends_iff_isChain.2 (.cons_cons (.toBase rfl rfl) (.singleton _))
    · rw [Simple]
      decide
  have hform : (screen order).IsFormOf (.erase ⟨"App", "Screen", .classType⟩ 1) :=
    ⟨by decide, by decide⟩
  exact ⟨hs, hd, _, hm, hc, rfl, by decide, hnone, hlength, (hmem _).2 ⟨_, hbase, hform, rfl⟩,
    hclosed (by decide) (Snapshot.aritiesAgree_of_names (by decide)) _ hbase⟩

end InjectionPlan
