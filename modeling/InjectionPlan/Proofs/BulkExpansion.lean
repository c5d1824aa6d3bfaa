import InjectionPlan.Expansion
import InjectionPlan.Proofs.BaseWalk
import InjectionPlan.Proofs.InheritedInterfaces
import Mathlib.Data.List.Nodup

/-! # What a bulk rule registers

    Whatever the rule, each registration comes from a match of a candidate, and the
    candidate inherits the match by some chain (`exists_chain_of_mem_matchesOf`).

    A bulk rule for an interface registers a concrete type once for each form of the
    contract that the type inherits, on whatever chain.  This holds in modules without
    recursion whose names can be read back and are all resolved.

    - `covers_iff`: a match is a form of the contract, and the contract itself if
      the contract is closed;
    - `matchingInterfaces_eq_filter`: no match is passed over, although the search
      for a closed contract ends at the first one;
    - `nodup_registrationsOf`, `inherits_of_mem_registrationsOf` and
      `mem_registrationsOf_of_inherits`: each type is registered once for each form
      that it inherits, and for nothing else.
-/

namespace InjectionPlan

open TypeExpr

variable {s : Snapshot} {d : Declaration} {t u c : TypeExpr} {r : Rule}

/-! ### Forms of a contract -/

/-- The brackets of a family name show whether the reference is generic. -/
theorem TypeExpr.WellNamed.mem_familyName_iff (ht : t.WellNamed) :
    '<' ∈ t.familyName.toList ↔ t.isGeneric = true := by
  have hname : '<' ∉ t.definitionName.toList := by
    intro h
    have hdelimiter := not_isDelimiter_of_mem_definitionName ht.head '<' h
    cases hdelimiter
  rw [familyName, String.toList_append, List.mem_append]
  by_cases h : t.isGeneric = true
  · simp [h, toList_erasedSuffix]
  · simp [h, hname]

/-- The forms of one definition are all generic or all not. -/
theorem TypeExpr.WellNamed.isGeneric_congr (ht : t.WellNamed) (hu : u.WellNamed)
    (h : t.familyName = u.familyName) : t.isGeneric = u.isGeneric := by
  rw [Bool.eq_iff_iff, ← ht.mem_familyName_iff, ← hu.mem_familyName_iff, h]

/-- An open reference is generic. -/
theorem TypeExpr.WellNamed.isGeneric_of_isOpen (hc : c.WellNamed) (h : c.isOpen = true) :
    c.isGeneric = true := by
  have hform : c ≠ plain c.head := by
    intro hplain
    rw [hplain] at h
    cases h
  exact decide_eq_true (arity_pos hc.self.2 hform)

theorem TypeExpr.covers_iff_of_isOpen (hc : c.isOpen = true) :
    c.covers t = true ↔ t.isGeneric = true ∧ t.familyName = c.familyName := by
  rw [covers, if_pos hc, Bool.and_eq_true, beq_iff_eq]

theorem TypeExpr.covers_iff_of_closed (hc : c.isOpen = false) :
    c.covers t = true ↔ t.qualifiedName = c.qualifiedName := by
  rw [covers, if_neg (by simp [hc]), beq_iff_eq]

/-- A match is a form of the contract; a closed contract matches only itself. -/
theorem TypeExpr.covers_iff (hc : c.WellNamed) (ht : t.WellNamed) :
    c.covers t = true ↔
      t.familyName = c.familyName ∧ (c.isOpen = false → t.qualifiedName = c.qualifiedName) := by
  cases hopen : c.isOpen with
  | true =>
    rw [covers_iff_of_isOpen hopen]
    constructor
    · rintro ⟨-, h⟩
      exact ⟨h, fun hclosed => by cases hclosed⟩
    · rintro ⟨h, -⟩
      -- forms of an open contract are generic because the contract is
      exact ⟨by rw [ht.isGeneric_congr hc h, hc.isGeneric_of_isOpen hopen], h⟩
  | false =>
    rw [covers_iff_of_closed hopen]
    constructor
    · intro h
      exact ⟨familyName_eq_of_qualifiedName_eq ht hc h, fun _ => h⟩
    · rintro ⟨-, h⟩
      exact h rfl

/-! ### Matches -/

theorem nodup_names_interfacesOf (s : Snapshot) (d : Declaration) :
    ((s.interfacesOf d).map qualifiedName).Nodup :=
  (InterfaceWalk.passes_run s d).invariant.names

theorem exists_inherits_of_mem_interfacesOf (h : t ∈ s.interfacesOf d) :
    ∃ ts, Inherits s d.self ts t := by
  obtain ⟨ts, hinherits, -⟩ := (InterfaceWalk.passes_run s d).invariant.found t h
  exact ⟨ts, hinherits⟩

/-- Of references with different names at most the first one found has a given name. -/
theorem find?_toList_eq_filter {ts : List TypeExpr} (h : (ts.map qualifiedName).Nodup)
    (q : String) :
    (ts.find? (·.qualifiedName == q)).toList = ts.filter (·.qualifiedName == q) := by
  induction ts with
  | nil => rfl
  | cons t ts ih =>
    obtain ⟨hfresh, hts⟩ := List.nodup_cons.1 h
    by_cases ht : t.qualifiedName = q
    · -- no later reference has the name again
      have hnone : ts.filter (·.qualifiedName == q) = [] := by
        rw [List.filter_eq_nil_iff]
        intro u hu hname
        have hsame : u.qualifiedName = t.qualifiedName := by simpa [ht] using hname
        exact hfresh (hsame ▸ List.mem_map_of_mem hu)
      rw [List.find?_cons_of_pos (by simpa using ht), List.filter_cons_of_pos (by simpa using ht),
        hnone]
      rfl
    · rw [List.find?_cons_of_neg (by simpa using ht), List.filter_cons_of_neg (by simpa using ht),
        ih hts]

/-- The matches are all interfaces that the contract covers. -/
theorem Rule.matchingInterfaces_eq_filter (r : Rule) (s : Snapshot) (d : Declaration) :
    r.matchingInterfaces s d = (s.interfacesOf d).filter r.contract.covers := by
  by_cases hopen : r.contract.isOpen = true
  · rw [matchingInterfaces, if_pos hopen]
  · have hcovers : r.contract.covers = (·.qualifiedName == r.contract.qualifiedName) := by
      funext t
      rw [covers, if_neg hopen]
    rw [matchingInterfaces, if_neg hopen, hcovers]
    exact find?_toList_eq_filter (nodup_names_interfacesOf s d) _

/-- For an interface the bases are not searched. -/
theorem Rule.matchesOf_of_isInterface (h : Host) (hi : r.isInterface s = true) :
    r.matchesOf h s d = (s.interfacesOf d).filter r.contract.covers := by
  have hsearch : r.searchesBases s d = false := by
    rw [searchesBases, hi, Bool.not_true, Bool.and_false]
  rw [matchesOf, hsearch, if_neg Bool.false_ne_true, matchingInterfaces_eq_filter]

/-- A match is covered by the contract and inherited on a chain of some steps. -/
theorem Rule.exists_chain_of_mem_matchesOf {h : Host} (hd : d ∈ s.types)
    (ht : t ∈ r.matchesOf h s d) :
    r.contract.covers t = true ∧ ∃ ks ts, Chain s d.self ks ts t ∧ ks ≠ [] := by
  unfold matchesOf at ht
  split at ht
  · obtain ⟨hbase, hcovers⟩ : t ∈ s.basesOf d ∧ r.contract.covers t = true := by
      rw [Option.mem_toList] at ht
      exact ⟨(List.mem_filter.1 (List.mem_of_find?_eq_some ht)).1, List.find?_some ht⟩
    obtain ⟨ks, ts, hchain, hks, -⟩ := Snapshot.exists_chain_of_mem_basesOf hd hbase
    exact ⟨hcovers, ks, ts, hchain, hks⟩
  · rw [matchingInterfaces_eq_filter] at ht
    obtain ⟨hfound, hcovers⟩ := List.mem_filter.1 ht
    obtain ⟨ts, ks, hchain, hlast⟩ := exists_inherits_of_mem_interfacesOf hfound
    refine ⟨hcovers, ks, ts, hchain, ?_⟩
    rintro rfl
    cases hlast

/-- A match has in all its parts what all references of the module have. -/
theorem Rule.every_of_mem_matchesOf {h : Host} {p : TypeExpr → Prop} (hp : Shallow p)
    (hs : s.Every p) (hd : d ∈ s.types) (ht : t ∈ r.matchesOf h s d) : t.Every p := by
  obtain ⟨-, ks, ts, hchain, -⟩ := exists_chain_of_mem_matchesOf hd ht
  exact hchain.every hp hs (hs.self d hd)

/-- A candidate is not the contract's own declaration. -/
theorem Rule.key_ne_of_mem_candidates (hd : d ∈ r.candidates s) :
    d ∈ s.types ∧ d.key ≠ r.contract.familyName := by
  obtain ⟨hmem, hcandidate⟩ := List.mem_filter.1 hd
  rw [Bool.and_eq_true] at hcandidate
  exact ⟨hmem, by simpa using hcandidate.2⟩

theorem Expansion.mem_registrations_ofMarker_iff {h : Host} {m : Marker} {reg : Registration} :
    reg ∈ (ofMarker h s m).registrations ↔
      ∃ r, Rule.ofMarker? m = some r ∧ ∃ d ∈ r.candidates s, ∃ t ∈ r.matchesOf h s d,
        r.registration? d t = some reg := by
  cases hm : Rule.ofMarker? m with
  | none => simp [ofMarker, hm]
  | some r => simp [ofMarker, hm, ofRule, Rule.registrationsOf]

/-! ### Registrations of a type -/

theorem Declaration.isGeneric_eq_false_iff : d.isGeneric = false ↔ d.params = [] := by
  simp [isGeneric, self, TypeExpr.isGeneric]

/-- Without parameters a type has one name only. -/
theorem Declaration.qualifiedName_of_not_isGeneric (hd : d.isGeneric = false) :
    d.qualifiedName = d.head.definitionName := by
  rw [Declaration.qualifiedName, self, isGeneric_eq_false_iff.1 hd]
  rfl

/-- A generic type is open, as its arguments are its own parameters. -/
theorem Declaration.isOpen_self (d : Declaration) : d.self.isOpen = d.isGeneric := by
  by_cases hparams : d.params = []
  · rw [isGeneric_eq_false_iff.2 hparams, self, hparams]
    rfl
  · have hgeneric : d.isGeneric = true := by
      rw [← Bool.not_eq_false, isGeneric_eq_false_iff]
      exact hparams
    have hopen : (d.params.map TypeExpr.param).all isParameter = true := by
      rw [List.all_map, List.all_eq_true]
      intro p _
      rfl
    rw [hgeneric, self, apply, if_neg (by simpa using hparams)]
    exact hopen

/-- A type without parameters is registered under its own name and the match's. -/
theorem Rule.registration?_of_closed (hd : d.isGeneric = false) :
    r.registration? d t = some ⟨some (t.displayName d.ns), d.qualifiedName, r.lifetime,
      if r.namesByType then some d.name else none⟩ := by
  have hclosed : d.self.isOpen = false := by rw [d.isOpen_self, hd]
  have hserves : d.canServe t = true := by simp [Declaration.canServe, hclosed]
  have hpairing : d.pairing t = (t.displayName d.ns, d.qualifiedName) := by
    rw [Declaration.pairing, hclosed, if_neg Bool.false_ne_true]
  rw [registration?, if_pos hserves, registration, hpairing]

/-- For a resolved match that is the match's qualified name. -/
theorem Rule.registration?_of_not_isGeneric (hd : d.isGeneric = false) (ht : t.isBroken = false) :
    r.registration? d t = some ⟨some t.qualifiedName, d.qualifiedName, r.lifetime,
      if r.namesByType then some d.name else none⟩ := by
  rw [registration?_of_closed hd, displayName_of_not_broken ht]

/-- The registrations of a type without parameters have the names of its matches. -/
theorem Rule.registrationsOf_eq_map (h : Host) (hs : s.Unbroken) (hd : d ∈ s.types)
    (hg : d.isGeneric = false) (hi : r.isInterface s = true) :
    r.registrationsOf h s d = ((s.interfacesOf d).filter r.contract.covers).map fun t =>
      ⟨some t.qualifiedName, d.qualifiedName, r.lifetime,
        if r.namesByType then some d.name else none⟩ := by
  rw [registrationsOf, matchesOf_of_isInterface h hi, ← List.filterMap_eq_map]
  apply List.filterMap_congr
  intro t ht
  obtain ⟨ts, ks, hchain, -⟩ := exists_inherits_of_mem_interfacesOf (List.mem_filter.1 ht).1
  exact r.registration?_of_not_isGeneric hg (hchain.not_isBroken hs hd)

/-- No registration is made twice. -/
theorem Rule.nodup_registrationsOf (h : Host) (hs : s.Unbroken) (hd : d ∈ s.types)
    (hg : d.isGeneric = false) (hi : r.isInterface s = true) : (r.registrationsOf h s d).Nodup := by
  -- the names of the matches are different, and each registration shows one of them
  have hnames : (((s.interfacesOf d).filter r.contract.covers).map qualifiedName).Nodup :=
    (List.filter_sublist.map _).nodup (nodup_names_interfacesOf s d)
  have hservices := List.Nodup.map (fun _ _ => Option.some.inj) hnames
  apply List.Nodup.of_map Registration.service
  rw [registrationsOf_eq_map h hs hd hg hi, List.map_map]
  rwa [List.map_map] at hservices

/-- Nothing is invented: a registration comes from an inherited form of the contract. -/
theorem Rule.inherits_of_mem_registrationsOf {reg : Registration} (hs : s.WellNamed)
    (hu : s.Unbroken) (hc : r.contract.WellNamed) (hi : r.isInterface s = true) (hd : d ∈ s.types)
    (hg : d.isGeneric = false) (hreg : reg ∈ r.registrationsOf h s d) :
    ∃ ts u, Inherits s d.self ts u ∧ u.familyName = r.contract.familyName ∧
      (r.contract.isOpen = false → u.qualifiedName = r.contract.qualifiedName) ∧
      reg = ⟨some u.qualifiedName, d.qualifiedName, r.lifetime,
        if r.namesByType then some d.name else none⟩ := by
  rw [registrationsOf_eq_map h hu hd hg hi] at hreg
  obtain ⟨t, ht, rfl⟩ := List.mem_map.1 hreg
  obtain ⟨hfound, hcovers⟩ := List.mem_filter.1 ht
  obtain ⟨ts, ks, hchain, hlast⟩ := exists_inherits_of_mem_interfacesOf hfound
  obtain ⟨hfamily, hclosed⟩ := (covers_iff hc (hchain.wellNamed hs hd)).1 hcovers
  exact ⟨ts, t, ⟨ks, hchain, hlast⟩, hfamily, hclosed, rfl⟩

/-- Nothing is lost: each inherited form of the contract gives a registration. -/
theorem Rule.mem_registrationsOf_of_inherits {ts : List TypeExpr} (hs : s.WellNamed)
    (hu : s.Unbroken) (hr : s.NonRecursive) (hc : r.contract.WellNamed)
    (hi : r.isInterface s = true) (hd : d ∈ s.types) (hg : d.isGeneric = false)
    (hinherits : Inherits s d.self ts u) (hfamily : u.familyName = r.contract.familyName)
    (hclosed : r.contract.isOpen = false → u.qualifiedName = r.contract.qualifiedName) :
    ⟨some u.qualifiedName, d.qualifiedName, r.lifetime,
      if r.namesByType then some d.name else none⟩ ∈ r.registrationsOf h s d := by
  -- the walk has found a reference of this name, and it is a form of the contract too
  have hname : u.qualifiedName ∈ (s.interfacesOf d).map qualifiedName :=
    (mem_names_interfacesOf_iff_of_nonRecursive hs hr hd).2 ⟨ts, u, hinherits, rfl⟩
  obtain ⟨t, hfound, htu⟩ := List.mem_map.1 hname
  obtain ⟨ks, hchain, -⟩ := hinherits
  obtain ⟨ts', ks', hchain', -⟩ := exists_inherits_of_mem_interfacesOf hfound
  have ht := hchain'.wellNamed hs hd
  have hsame := familyName_eq_of_qualifiedName_eq ht (hchain.wellNamed hs hd) htu
  have hcovers : r.contract.covers t = true := by
    rw [covers_iff hc ht, htu]
    exact ⟨hsame.trans hfamily, hclosed⟩
  rw [registrationsOf_eq_map h hu hd hg hi, ← htu]
  exact List.mem_map_of_mem (List.mem_filter.2 ⟨hfound, hcovers⟩)

/-- Where no chain meets a declaration twice, a rule for an interface registers the
concrete types, the contract's own declaration aside, in the order of declaration.  A
type without parameters is registered once for each form of the contract that it
inherits on whatever chain; if the contract is closed, for the contract only. -/
theorem registrations_ofMarker (h : Host) {s : Snapshot} {m : Marker} {r : Rule}
    (hs : s.WellNamed) (hu : s.Unbroken) (hr : s.NonRecursive) (hm : Rule.ofMarker? m = some r)
    (hc : r.contract.WellNamed) (hi : r.isInterface s = true) :
    (Expansion.ofMarker h s m).registrations =
      (s.types.filter fun d => !d.isAbstract && d.key != r.contract.familyName).flatMap
        (r.registrationsOf h s) ∧
    ∀ d ∈ s.types, d.isGeneric = false →
      (r.registrationsOf h s d).Nodup ∧
      ∀ reg, reg ∈ r.registrationsOf h s d ↔
        ∃ ts u, Inherits s d.self ts u ∧ u.familyName = r.contract.familyName ∧
          (r.contract.isOpen = false → u.qualifiedName = r.contract.qualifiedName) ∧
          reg = ⟨some u.qualifiedName, d.qualifiedName, m.lifetime,
            if m.namesByType then some d.name else none⟩ := by
  obtain ⟨c, -, rfl⟩ := Option.map_eq_some_iff.1 hm
  constructor
  · rw [Expansion.ofMarker, hm]
    rfl
  intro d hd hg
  refine ⟨Rule.nodup_registrationsOf h hu hd hg hi, ?_⟩
  intro reg
  constructor
  · intro hreg
    exact Rule.inherits_of_mem_registrationsOf hs hu hc hi hd hg hreg
  · rintro ⟨ts, u, hinherits, hfamily, hclosed, rfl⟩
    exact Rule.mem_registrationsOf_of_inherits hs hu hr hc hi hd hg hinherits hfamily hclosed

namespace Handlers

/-- The handler of a message. -/
def handler (t : TypeExpr) : TypeExpr := .apply ⟨"App", "IHandler", .interfaceType⟩ [t]

/-- A message. -/
def message (name : String) : TypeExpr := .plain ⟨"App", name, .classType⟩

/-- Handles orders by its base and refunds itself. -/
def orderHandler : Declaration :=
  { Showcase.blank "App" "OrderHandler" .classType with
    base := some (.apply ⟨"App", "Handler", .classType⟩ [message "Order"])
    interfaces := [handler (message "Refund")] }

/-- A module with a generic handler as a base. -/
def snapshot : Snapshot where
  name := "App"
  types :=
    [{ Showcase.blank "App" "IHandler" .interfaceType with params := ["T"] },
      { Showcase.blank "App" "Handler" .classType with
        params := ["T"]
        interfaces := [handler (.param "T")]
        declaredAbstract := true },
      orderHandler]
  rules := []
  faultless := by decide

/-- Register all handlers. -/
def marker : Marker := .bulkByPosition (.erase ⟨"App", "IHandler", .interfaceType⟩ 1)

/-- How many declarations a chain from this one can still meet. -/
def rank (key : String) : Nat :=
  if key = "App.OrderHandler" then 2 else if key = "App.Handler<>" then 1 else 0

end Handlers

/-- The handlers are registered exactly. -/
theorem Handlers.registrations_exact :
    snapshot.WellNamed ∧ snapshot.Unbroken ∧ snapshot.NonRecursive ∧
      ∃ r, Rule.ofMarker? marker = some r ∧ r.contract.WellNamed ∧
        r.isInterface snapshot = true ∧
        ∀ reg, reg ∈ r.registrationsOf .microsoft snapshot orderHandler ↔
          ∃ ts u, Inherits snapshot orderHandler.self ts u ∧
            u.familyName = r.contract.familyName ∧
            (r.contract.isOpen = false → u.qualifiedName = r.contract.qualifiedName) ∧
            reg = ⟨some u.qualifiedName, "App.OrderHandler", .transient, none⟩ := by
  have hs : snapshot.WellNamed := by decide
  have hu : snapshot.Unbroken := by decide
  have hr : snapshot.NonRecursive := Snapshot.nonRecursive_of_rank rank (by decide)
  have hm : Rule.ofMarker? marker =
      some ⟨.erase ⟨"App", "IHandler", .interfaceType⟩ 1, .transient, false⟩ := rfl
  have hc : (TypeExpr.erase ⟨"App", "IHandler", .interfaceType⟩ 1).WellNamed := by decide
  have hd : orderHandler ∈ snapshot.types := by simp [snapshot]
  have exact := registrations_ofMarker .microsoft hs hu hr hm hc rfl
  exact ⟨hs, hu, hr, _, hm, hc, rfl, (exact.2 orderHandler hd rfl).2⟩

end InjectionPlan
