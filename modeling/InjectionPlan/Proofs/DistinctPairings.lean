import InjectionPlan.Proofs.OpenRegistrations

/-! # Distinct pairings

    A bulk rule takes each inherited form of its contract once: the matches of a
    candidate have different qualified names, and no two candidates have the same key.
    But a registration shows its match under another name:
    - a generic candidate shows the open form of the contract, whatever the arguments are;
    - any other candidate shows a name that could not be resolved without its namespace
      and its arguments.

    So a rule pairs a service with an implementation twice exactly if two matches of one
    candidate are shown alike (`pairings_nodup_iff`).  A closed contract has one match at
    most.  If names can be read back and type parameters are written as their names alone,
    open candidates show no name twice, and a name that could not be resolved is never
    shown like one that could; what is left are the unresolved forms of one simple name, as
    those that `Unresolved.mailer` inherits.
-/

namespace InjectionPlan

open TypeExpr

variable {s : Snapshot} {d : Declaration} {t u c : TypeExpr} {r : Rule} {h : Host}
  {reg : Registration}

/-- The service and the implementation that the registration names. -/
def Registration.pairing (reg : Registration) : Option String × String :=
  (reg.service, reg.implementation)

/-! ### Matches of one candidate -/

namespace Rule

/-- The matches of a candidate have different names. -/
theorem nodup_names_matchesOf (r : Rule) (h : Host) (s : Snapshot) (d : Declaration) :
    ((r.matchesOf h s d).map qualifiedName).Nodup := by
  unfold matchesOf
  split
  · cases r.matchingBase? h s d with
    | none => exact List.nodup_nil
    | some t => exact List.nodup_singleton _
  · rw [matchingInterfaces_eq_filter]
    exact (List.filter_sublist.map _).nodup (nodup_names_interfacesOf s d)

theorem match_eq_of_qualifiedName_eq (ht : t ∈ r.matchesOf h s d) (hu : u ∈ r.matchesOf h s d)
    (hname : t.qualifiedName = u.qualifiedName) : t = u :=
  List.inj_on_of_nodup_map (r.nodup_names_matchesOf h s d) ht hu hname

/-- A closed contract is matched once at most. -/
theorem match_eq_of_closed (hc : r.contract.isOpen = false) (hd : d ∈ s.types)
    (ht : t ∈ r.matchesOf h s d) (hu : u ∈ r.matchesOf h s d) : t = u := by
  have htname := (covers_iff_of_closed hc).1 (exists_chain_of_mem_matchesOf hd ht).1
  have huname := (covers_iff_of_closed hc).1 (exists_chain_of_mem_matchesOf hd hu).1
  exact match_eq_of_qualifiedName_eq ht hu (htname.trans huname.symm)

/-- So different matches are generic forms of one definition. -/
theorem isGeneric_of_match_ne (hd : d ∈ s.types) (ht : t ∈ r.matchesOf h s d)
    (hu : u ∈ r.matchesOf h s d) (hne : t ≠ u) :
    t.isGeneric = true ∧ u.isGeneric = true ∧ t.familyName = u.familyName := by
  have hopen : r.contract.isOpen = true := by
    rw [← Bool.not_eq_false]
    intro hclosed
    exact hne (match_eq_of_closed hclosed hd ht hu)
  obtain ⟨htgeneric, htfamily⟩ :=
    (covers_iff_of_isOpen hopen).1 (exists_chain_of_mem_matchesOf hd ht).1
  obtain ⟨hugeneric, hufamily⟩ :=
    (covers_iff_of_isOpen hopen).1 (exists_chain_of_mem_matchesOf hd hu).1
  exact ⟨htgeneric, hugeneric, htfamily.trans hufamily.symm⟩

end Rule

/-! ### What a candidate shows -/

/-- Registrations of the type for the two references would name the same service.  A generic
type names their common open form, if it can serve for both.  For any other type one of
them is a name that could not be resolved, which is shown in the namespace of the type. -/
def Declaration.ShowsAlike (d : Declaration) (t u : TypeExpr) : Prop :=
  if d.isGeneric then d.forwards t = true ∧ d.forwards u = true
  else (t.isBroken = true ∨ u.isBroken = true) ∧ t.displayName d.ns = u.displayName d.ns

/-- Without parameters the key is the qualified name. -/
theorem Declaration.key_of_not_isGeneric (hd : d.isGeneric = false) : d.key = d.qualifiedName := by
  have hkey : d.key = d.head.definitionName ++ "" := by
    rw [key, familyName, ← Declaration.isGeneric, hd, definitionName, head_self]
    rfl
  rw [hkey, String.append_empty, d.qualifiedName_of_not_isGeneric hd]

/-- Whatever the match, the implementation is the candidate. -/
theorem Declaration.pairing_snd (d : Declaration) (t : TypeExpr) : (d.pairing t).2 = d.key := by
  rw [pairing, d.isOpen_self]
  cases hd : d.isGeneric with
  | true => rfl
  | false => exact (d.key_of_not_isGeneric hd).symm

/-- Two matches of a candidate are paired with it in the same way exactly if they are shown
alike. -/
theorem Rule.pairing_eq_iff (hd : d ∈ s.types) (ht : t ∈ r.matchesOf h s d)
    (hu : u ∈ r.matchesOf h s d) (hne : t ≠ u) :
    (d.canServe t = true ∧ d.canServe u = true ∧ d.pairing t = d.pairing u) ↔
      d.ShowsAlike t u := by
  rw [Declaration.canServe, Declaration.canServe, Declaration.pairing, Declaration.pairing,
    Declaration.ShowsAlike, d.isOpen_self]
  cases d.isGeneric with
  | true =>
    have hfamily := (isGeneric_of_match_ne hd ht hu hne).2.2
    simp [hfamily]
  | false =>
    -- what is resolved on both sides is shown by its qualified name
    have hbroken (hshown : t.displayName d.ns = u.displayName d.ns) :
        t.isBroken = true ∨ u.isBroken = true := by
      by_contra hresolved
      rw [not_or, Bool.not_eq_true, Bool.not_eq_true] at hresolved
      rw [displayName_of_not_broken hresolved.1, displayName_of_not_broken hresolved.2] at hshown
      exact hne (match_eq_of_qualifiedName_eq ht hu hshown)
    simpa using hbroken

/-- The pairings of one candidate. -/
theorem Rule.map_pairing_registrationsOf (r : Rule) (h : Host) (s : Snapshot) (d : Declaration) :
    (r.registrationsOf h s d).map Registration.pairing =
      ((r.matchesOf h s d).filter d.canServe).map fun t =>
        (some (d.pairing t).1, (d.pairing t).2) := by
  rw [registrationsOf, List.map_filterMap, ← List.filterMap_eq_map', List.filterMap_filter]
  apply List.filterMap_congr
  intro t _
  cases hserves : d.canServe t <;> simp [registration?, hserves, registration, Registration.pairing]

theorem Rule.nodup_pairings_registrationsOf_iff (hd : d ∈ s.types) :
    ((r.registrationsOf h s d).map Registration.pairing).Nodup ↔
      ∀ t ∈ r.matchesOf h s d, ∀ u ∈ r.matchesOf h s d, d.ShowsAlike t u → t = u := by
  have hmatches : ((r.matchesOf h s d).filter d.canServe).Nodup :=
    (List.Nodup.of_map _ (r.nodup_names_matchesOf h s d)).filter _
  -- the matches are listed once, so their pairings are if no two matches share one
  rw [map_pairing_registrationsOf, List.nodup_map_iff_inj_on hmatches]
  constructor
  · intro hinj t ht u hu halike
    by_contra hne
    obtain ⟨htserves, huserves, hpairing⟩ := (pairing_eq_iff hd ht hu hne).2 halike
    exact hne (hinj t (List.mem_filter.2 ⟨ht, htserves⟩) u (List.mem_filter.2 ⟨hu, huserves⟩)
      (by rw [hpairing]))
  · intro halike t ht u hu hpairing
    obtain ⟨ht, htserves⟩ := List.mem_filter.1 ht
    obtain ⟨hu, huserves⟩ := List.mem_filter.1 hu
    rw [Prod.mk.injEq, Option.some.injEq] at hpairing
    by_contra hne
    exact hne (halike t ht u hu
      ((pairing_eq_iff hd ht hu hne).1 ⟨htserves, huserves, Prod.ext hpairing.1 hpairing.2⟩))

/-! ### All candidates of a rule -/

theorem Rule.implementation_of_mem_registrationsOf (hreg : reg ∈ r.registrationsOf h s d) :
    reg.implementation = d.key := by
  obtain ⟨t, -, hreg⟩ := List.mem_filterMap.1 hreg
  unfold registration? at hreg
  split at hreg
  · cases hreg
    exact d.pairing_snd t
  · cases hreg

/-- No pairing is shared by two candidates, as they have different keys. -/
theorem Rule.pairwise_disjoint_pairings (r : Rule) (h : Host) (s : Snapshot) :
    (r.candidates s).Pairwise fun d e =>
      ((r.registrationsOf h s d).map Registration.pairing).Disjoint
        ((r.registrationsOf h s e).map Registration.pairing) := by
  have hkeys : s.types.Pairwise fun d e => d.key ≠ e.key := List.pairwise_map.1 s.nodup_keys
  refine (hkeys.sublist List.filter_sublist).imp ?_
  intro d e hne
  -- a shared pairing would show one implementation for both candidates
  rw [List.disjoint_left]
  intro p hpd hpe
  obtain ⟨reg, hreg, rfl⟩ := List.mem_map.1 hpd
  obtain ⟨reg', hreg', hsame⟩ := List.mem_map.1 hpe
  have himplementation : reg'.implementation = reg.implementation := congrArg Prod.snd hsame
  rw [implementation_of_mem_registrationsOf hreg,
    implementation_of_mem_registrationsOf hreg'] at himplementation
  exact hne himplementation.symm

theorem Expansion.nodup_pairings_ofRule_iff (h : Host) (s : Snapshot) (r : Rule) :
    ((ofRule h s r).registrations.map Registration.pairing).Nodup ↔
      ∀ d ∈ r.candidates s, ∀ t ∈ r.matchesOf h s d, ∀ u ∈ r.matchesOf h s d,
        d.ShowsAlike t u → t = u := by
  have hpairings : (ofRule h s r).registrations.map Registration.pairing =
      (r.candidates s).flatMap fun d => (r.registrationsOf h s d).map Registration.pairing :=
    List.map_flatMap
  rw [hpairings, List.nodup_flatMap, and_iff_left (r.pairwise_disjoint_pairings h s)]
  apply forall₂_congr
  intro d hd
  exact Rule.nodup_pairings_registrationsOf_iff (Rule.key_ne_of_mem_candidates hd).1

/-! ### Names that can be read back -/

namespace TypeExpr

/-- Whether the expression is written as its name alone if it is a type parameter. -/
def parameterIsBare : TypeExpr → Bool
  | plain g => g.kind != .parameter || g.ns.isEmpty
  | applied g _ => g.kind != .parameter
  | erased g _ => g.kind != .parameter

theorem eq_param_of_parameterIsBare (ht : t.parameterIsBare = true) (hpar : t.isParameter = true) :
    t = .param t.name := by
  have hkind : t.head.kind = .parameter := by simpa [isParameter, kind] using hpar
  cases t with
  | plain g =>
    obtain ⟨ns, name, kind⟩ := g
    obtain rfl : kind = .parameter := hkind
    obtain rfl : ns = "" := by simpa [parameterIsBare] using ht
    rfl
  | applied g as => simp_all [parameterIsBare, head]
  | erased g n => simp_all [parameterIsBare, head]

theorem qualifiedName_of_args (ht : t.args ≠ []) :
    t.qualifiedName = t.head.definitionName ++ ("<" ++ joinedNames t.args ++ ">") := by
  cases t with
  | plain => exact absurd rfl ht
  | erased => exact absurd rfl ht
  | applied g as => rw [qualifiedName]; rfl

/-- Forms of one definition that have the same arguments have the same name. -/
theorem qualifiedName_eq_of_args_eq (ht : t.args ≠ []) (hargs : t.args = u.args)
    (hfamily : t.familyName = u.familyName) : t.qualifiedName = u.qualifiedName := by
  have hu : u.args ≠ [] := hargs ▸ ht
  rw [familyName_of_args ht, familyName_of_args hu, hargs, String.append_left_inj] at hfamily
  rw [qualifiedName_of_args ht, qualifiedName_of_args hu, hfamily, hargs]

theorem mem_qualifiedName_of_isGeneric (ht : t.isGeneric = true) : '<' ∈ t.qualifiedName.toList := by
  rw [toList_qualifiedName, List.mem_append]
  cases t with
  | plain => cases ht
  | applied => exact .inr List.mem_cons_self
  | erased => exact .inr List.mem_cons_self

theorem displayName_eq_iff_of_isBroken (ht : t.isBroken = true) (hu : u.isBroken = true)
    (home : String) : t.displayName home = u.displayName home ↔ t.name = u.name := by
  rw [displayName_of_isBroken ht, displayName_of_isBroken hu]
  exact definitionName_eq_iff

/-- A name that could not be resolved shows no brackets, so it differs from a generic name
that could be. -/
theorem displayName_ne_of_isBroken (hd : d.self.WellNamed) (hu : u.WellNamed)
    (hbroken : u.isBroken = true) (ht : t.isGeneric = true) (hresolved : t.isBroken = false) :
    t.displayName d.ns ≠ u.displayName d.ns := by
  have hhead : TypeHead.WellNamed ⟨d.ns, u.name, .broken⟩ := by
    refine ⟨hu.head.1, ?_⟩
    intro c hc
    rcases List.mem_append.1 hc with hc | hc
    · exact hd.head.2 c (List.mem_append_left _ (by rwa [d.head_self]))
    · exact hu.head.2 c (List.mem_append_right _ hc)
  intro hshown
  -- the generic name has its bracket, and the other one is built of two bare names
  rw [displayName_of_not_broken hresolved, displayName_of_isBroken hbroken] at hshown
  have hbracket := mem_qualifiedName_of_isGeneric ht
  rw [hshown] at hbracket
  have hdelimiter := not_isDelimiter_of_mem_definitionName hhead '<' hbracket
  cases hdelimiter

end TypeExpr

/-- All type parameters in the module are written as their names alone. -/
def Snapshot.BareParameters (s : Snapshot) : Prop := s.Every fun u => u.parameterIsBare = true

instance : DecidablePred Snapshot.BareParameters :=
  inferInstanceAs (DecidablePred (Snapshot.Every fun u => u.parameterIsBare = true))

theorem Declaration.args_of_forwards (ht : d.forwards t = true)
    (hbare : ∀ a ∈ t.args, a.parameterIsBare = true) : t.args = d.params.map .param := by
  obtain ⟨hnames, hpars⟩ := forwards_iff.1 ht
  rw [← hnames, List.map_map]
  refine (List.map_id _).symm.trans (List.map_congr_left ?_)
  intro a ha
  exact eq_param_of_parameterIsBare (hbare a ha) (hpars a ha)

/-- A generic candidate serves for one match at most. -/
theorem Rule.match_eq_of_forwards (hs : s.BareParameters) (hd : d ∈ s.types)
    (hg : d.isGeneric = true) (ht : t ∈ r.matchesOf h s d) (hu : u ∈ r.matchesOf h s d)
    (htforwards : d.forwards t = true) (huforwards : d.forwards u = true) : t = u := by
  have hbare {v : TypeExpr} (hv : v ∈ r.matchesOf h s d) :
      ∀ a ∈ v.args, a.parameterIsBare = true := by
    have hshallow : Shallow fun u => u.parameterIsBare = true := fun _ _ _ _ h => h
    exact fun a ha => ((every_of_mem_matchesOf hshallow hs hd hv).args a ha).self
  -- both are applied to the candidate's parameters, and these are written in one way
  have hargs : t.args = u.args := by
    rw [Declaration.args_of_forwards htforwards (hbare ht),
      Declaration.args_of_forwards huforwards (hbare hu)]
  by_contra hne
  have hfamily := (isGeneric_of_match_ne hd ht hu hne).2.2
  have hnonempty := d.args_ne_nil_of_forwards hg htforwards
  exact hne (match_eq_of_qualifiedName_eq ht hu
    (qualifiedName_eq_of_args_eq hnonempty hargs hfamily))

/-- Different matches are shown alike only if neither could be resolved. -/
theorem Rule.showsAlike_iff (hs : s.WellNamed) (hbare : s.BareParameters) (hd : d ∈ s.types)
    (ht : t ∈ r.matchesOf h s d) (hu : u ∈ r.matchesOf h s d) (hne : t ≠ u) :
    d.ShowsAlike t u ↔
      d.isGeneric = false ∧ t.isBroken = true ∧ u.isBroken = true ∧ t.name = u.name := by
  unfold Declaration.ShowsAlike
  cases hg : d.isGeneric with
  | true =>
    have hone : ¬ (d.forwards t = true ∧ d.forwards u = true) := fun ⟨htforwards, huforwards⟩ =>
      hne (match_eq_of_forwards hbare hd hg ht hu htforwards huforwards)
    simp [hone]
  | false =>
    obtain ⟨htgeneric, hugeneric, -⟩ := isGeneric_of_match_ne hd ht hu hne
    have hself : d.self.WellNamed := hs.self d hd
    have htwell : t.WellNamed := every_of_mem_matchesOf shallow_partWellNamed hs hd ht
    have huwell : u.WellNamed := every_of_mem_matchesOf shallow_partWellNamed hs hd hu
    cases htb : t.isBroken with
    | true =>
      cases hub : u.isBroken with
      | true => simp [displayName_eq_iff_of_isBroken htb hub]
      | false => simp [(displayName_ne_of_isBroken hself htwell htb hugeneric hub).symm]
    | false =>
      cases hub : u.isBroken with
      | true => simp [displayName_ne_of_isBroken hself huwell hub htgeneric htb]
      | false => simp

/-- So what is shown alike is one match, if that holds of the names that could not be
resolved. -/
theorem Rule.eq_of_showsAlike_iff (hs : s.WellNamed) (hbare : s.BareParameters)
    (hd : d ∈ s.types) (ht : t ∈ r.matchesOf h s d) (hu : u ∈ r.matchesOf h s d) :
    (d.ShowsAlike t u → t = u) ↔
      (d.isGeneric = false → t.isBroken = true → u.isBroken = true → t.name = u.name →
        t = u) := by
  by_cases hsame : t = u
  · simp [hsame]
  · rw [showsAlike_iff hs hbare hd ht hu hsame]
    tauto

/-- A bulk rule pairs no service with the same implementation twice, except where two
different matches of one candidate are shown alike.  For a closed contract this does not
happen.  If names can be read back and type parameters are written as their names alone, it
happens where a candidate without parameters matches two forms of one simple name, neither
of which could be resolved. -/
theorem pairings_nodup_iff (h : Host) (s : Snapshot) (m : Marker) :
    (((Expansion.ofMarker h s m).registrations.map Registration.pairing).Nodup ↔
      ∀ r, Rule.ofMarker? m = some r → ∀ d ∈ r.candidates s,
        ∀ t ∈ r.matchesOf h s d, ∀ u ∈ r.matchesOf h s d, d.ShowsAlike t u → t = u) ∧
    ((∀ c, m.contract? = some c → c.isOpen = false) →
      ((Expansion.ofMarker h s m).registrations.map Registration.pairing).Nodup) ∧
    (s.WellNamed → s.BareParameters →
      (((Expansion.ofMarker h s m).registrations.map Registration.pairing).Nodup ↔
        ∀ r, Rule.ofMarker? m = some r → ∀ d ∈ r.candidates s, d.isGeneric = false →
          ∀ t ∈ r.matchesOf h s d, ∀ u ∈ r.matchesOf h s d,
            t.isBroken = true → u.isBroken = true → t.name = u.name → t = u)) := by
  have general : ((Expansion.ofMarker h s m).registrations.map Registration.pairing).Nodup ↔
      ∀ r, Rule.ofMarker? m = some r → ∀ d ∈ r.candidates s,
        ∀ t ∈ r.matchesOf h s d, ∀ u ∈ r.matchesOf h s d, d.ShowsAlike t u → t = u := by
    cases hm : Rule.ofMarker? m with
    | none => simp [Expansion.ofMarker, hm]
    | some r => simp [Expansion.ofMarker, hm, Expansion.nodup_pairings_ofRule_iff]
  refine ⟨general, ?_, ?_⟩
  · intro hclosed
    rw [general]
    intro r hm d hd t ht u hu _
    obtain ⟨c, hc, rfl⟩ := Option.map_eq_some_iff.1 hm
    exact Rule.match_eq_of_closed (hclosed c hc) (Rule.key_ne_of_mem_candidates hd).1 ht hu
  · intro hs hbare
    rw [general]
    constructor
    · intro halike r hm d hd hg t ht u hu
      have hdeclared := (Rule.key_ne_of_mem_candidates hd).1
      exact (Rule.eq_of_showsAlike_iff hs hbare hdeclared ht hu).1 (halike r hm d hd t ht u hu) hg
    · intro hbroken r hm d hd t ht u hu
      have hdeclared := (Rule.key_ne_of_mem_candidates hd).1
      rw [Rule.eq_of_showsAlike_iff hs hbare hdeclared ht hu]
      intro hg
      exact hbroken r hm d hd hg t ht u hu

namespace Unresolved

/-- A message. -/
def message (name : String) : TypeExpr := .plain ⟨"App", name, .classType⟩

/-- The handler of a message, whose name could not be resolved. -/
def handler (t : TypeExpr) : TypeExpr := .apply ⟨"", "IHandler", .broken⟩ [t]

/-- Handles orders and refunds. -/
def mailer : Declaration :=
  { Showcase.cls "App" "Mailer" with
    interfaces := [handler (message "Order"), handler (message "Refund")] }

/-- A module with the mailer and a generic handler. -/
def snapshot : Snapshot where
  name := "App"
  types :=
    [mailer,
      { Showcase.cls "App" "Audit" with
        params := ["T"]
        interfaces := [handler (.param "T")] }]
  rules := []
  faultless := by decide

/-- Register all handlers. -/
def marker : Marker := .bulkByPosition (.erase ⟨"", "IHandler", .broken⟩ 1)

/-- Register the handlers of orders. -/
def orderMarker : Marker := .bulkByPosition (handler (message "Order"))

/-- The rule for all handlers. -/
def rule : Rule := ⟨.erase ⟨"", "IHandler", .broken⟩ 1, .transient, false⟩

theorem matchesOf_mailer : rule.matchesOf .microsoft snapshot mailer =
    [handler (message "Order"), handler (message "Refund")] := by
  have hfound : snapshot.interfacesOf mailer =
      [handler (message "Order"), handler (message "Refund")] := by
    rw [Snapshot.interfacesOf, InterfaceWalk.run, InterfaceWalk.finish_eq_iterate 3 rfl]
    rfl
  have hmatching : rule.matchingInterfaces snapshot mailer =
      [handler (message "Order"), handler (message "Refund")] := by
    rw [Rule.matchingInterfaces_eq_filter, hfound]
    rfl
  simp [Rule.matchesOf, Rule.searchesBases, hmatching]

theorem handler_ne : handler (message "Order") ≠ handler (message "Refund") := fun h =>
  absurd (congrArg qualifiedName h) (by decide)

end Unresolved

/-- The rule for the handlers of orders pairs nothing twice, and the rule for all handlers
does, as the mailer matches two forms of the unresolved name. -/
theorem Unresolved.pairings_nodup_orders :
    snapshot.WellNamed ∧ snapshot.BareParameters ∧
      (∀ c, orderMarker.contract? = some c → c.isOpen = false) ∧
      ((Expansion.ofMarker .microsoft snapshot orderMarker).registrations.map
        Registration.pairing).Nodup ∧
      ¬ ((Expansion.ofMarker .microsoft snapshot marker).registrations.map
        Registration.pairing).Nodup := by
  have hs : snapshot.WellNamed := by decide
  have hbare : snapshot.BareParameters := by decide
  have hclosed : ∀ c, orderMarker.contract? = some c → c.isOpen = false := by
    intro c hc
    cases hc
    rfl
  refine ⟨hs, hbare, hclosed, (pairings_nodup_iff .microsoft snapshot orderMarker).2.1 hclosed, ?_⟩
  rw [(pairings_nodup_iff .microsoft snapshot marker).2.2 hs hbare]
  intro hone
  exact handler_ne (hone rule rfl mailer List.mem_cons_self rfl
    _ (by simp [matchesOf_mailer]) _ (by simp [matchesOf_mailer]) rfl rfl rfl)

/-- The mailer is registered twice as a handler, for the same name. -/
theorem Unresolved.not_all_pairings_nodup :
    ¬ ∀ (h : Host) (s : Snapshot) (m : Marker),
      ((Expansion.ofMarker h s m).registrations.map Registration.pairing).Nodup := by
  intro hall
  have hregistrations : rule.registrationsOf .microsoft snapshot mailer =
      [⟨some "App.IHandler", "App.Mailer", .transient, none⟩,
        ⟨some "App.IHandler", "App.Mailer", .transient, none⟩] := by
    rw [Rule.registrationsOf, matchesOf_mailer]
    rfl
  -- the mailer is the first candidate, so its registrations come first
  have hfirst : (rule.registrationsOf .microsoft snapshot mailer).Sublist
      (Expansion.ofMarker .microsoft snapshot marker).registrations :=
    List.sublist_append_left _ _
  have hnodup := (hfirst.map Registration.pairing).nodup (hall .microsoft snapshot marker)
  rw [hregistrations] at hnodup
  revert hnodup
  decide

namespace Qualified

/-- The cache of a type. -/
def caching (t : TypeExpr) : TypeExpr := .apply ⟨"App", "ICache", .interfaceType⟩ [t]

/-- A type parameter that is written with a namespace. -/
def parameter : TypeExpr := .plain ⟨"App", "T", .parameter⟩

/-- Caches its parameter, and what the store caches. -/
def cache : Declaration :=
  { Showcase.cls "App" "Cache" with
    params := ["T"]
    interfaces := [caching (.param "T"), .plain ⟨"App", "IStore", .interfaceType⟩] }

/-- A module in which the store writes its parameter with the namespace. -/
def snapshot : Snapshot where
  name := "App"
  types :=
    [cache,
      { Showcase.blank "App" "IStore" .interfaceType with
        interfaces := [caching parameter] }]
  rules := []
  faultless := by decide

/-- The rule for all caches. -/
def rule : Rule := ⟨.erase ⟨"App", "ICache", .interfaceType⟩ 1, .transient, false⟩

end Qualified

/-- Bare type parameters are needed: the cache forwards its parameter under two names, and is
registered twice as an open cache. -/
theorem Qualified.cache_paired_twice :
    snapshot.WellNamed ∧
      ¬ ((Expansion.ofRule .microsoft snapshot rule).registrations.map
        Registration.pairing).Nodup := by
  refine ⟨by decide, ?_⟩
  have hfound : snapshot.interfacesOf cache =
      [caching (.param "T"), .plain ⟨"App", "IStore", .interfaceType⟩, caching parameter] := by
    rw [Snapshot.interfacesOf, InterfaceWalk.run, InterfaceWalk.finish_eq_iterate 4 rfl]
    rfl
  have hmatches : rule.matchesOf .microsoft snapshot cache =
      [caching (.param "T"), caching parameter] := by
    rw [Rule.matchesOf_of_isInterface _ rfl, hfound]
    rfl
  rw [Expansion.nodup_pairings_ofRule_iff]
  intro halike
  have hsame : caching (.param "T") = caching parameter :=
    halike cache List.mem_cons_self _ (by simp [hmatches]) _ (by simp [hmatches]) ⟨rfl, rfl⟩
  exact absurd (congrArg qualifiedName hsame) (by decide)

end InjectionPlan
