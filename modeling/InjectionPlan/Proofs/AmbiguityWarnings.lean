import InjectionPlan.Proofs.Outcome

/-! # The switch for ambiguity warnings

    The user can be warned where a contract was chosen among several interfaces.  The
    switch for it changes what is said and nothing that is done: without the warnings, the
    plan of a pass that warns is that of a pass that does not
    (`warnings_observe_only`).

    The warning names a contract that is computed apart from the registrations.  It is
    the one that they are made for (`infer_of_isAmbiguous`).
-/

namespace InjectionPlan

variable {s : Snapshot} {d : Declaration} {m : Marker} {h : Host} {settings : Settings}

/-! ### The warning of a type -/

namespace Declaration

/-- A contract is chosen among several interfaces, for at least one register marker. -/
def IsAmbiguous (d : Declaration) (h : Host) : Prop :=
  (∃ m ∈ d.markersOf .register, m.contract? = none) ∧ 2 ≤ (d.contractInterfaces h).length

instance (d : Declaration) (h : Host) : Decidable (d.IsAmbiguous h) :=
  inferInstanceAs (Decidable (_ ∧ _))

/-- The warning that names the contract which the type is registered for. -/
def ambiguityWarning (d : Declaration) (h : Host) : Diagnostic :=
  .make .ambiguousContract (.ofType d)
    [d.qualifiedName, toString (d.contractInterfaces h).length, (Contract.implied h d).name]

theorem hasImpliedContract_iff :
    d.hasImpliedContract = true ↔ ∃ m ∈ d.markersOf .register, m.contract? = none := by
  simp [hasImpliedContract]

/-- A type is warned of exactly if it is ambiguous. -/
theorem ambiguity?_eq (d : Declaration) (h : Host) :
    d.ambiguity? h = if d.IsAmbiguous h then some (d.ambiguityWarning h) else none := by
  unfold ambiguity?
  by_cases himplied : d.hasImpliedContract = true
  · rw [if_pos himplied]
    have hmarker := hasImpliedContract_iff.1 himplied
    cases hinterfaces : d.contractInterfaces h with
    | nil => simp [IsAmbiguous, hinterfaces]
    | cons i rest =>
      cases rest with
      | nil => simp [IsAmbiguous, hinterfaces]
      | cons j rest =>
        have hambiguous : d.IsAmbiguous h := by
          refine ⟨hmarker, ?_⟩
          rw [hinterfaces]
          exact Nat.le_add_left 2 rest.length
        have hchosen : (Contract.implied h d).name = i.displayName d.ns := by
          rw [Contract.implied, hinterfaces]
          rfl
        rw [if_pos hambiguous, ambiguityWarning, hinterfaces, hchosen]
  · have hambiguous : ¬ d.IsAmbiguous h :=
      fun ha => himplied (hasImpliedContract_iff.2 ha.1)
    rw [if_neg himplied, if_neg hambiguous]

/-- All markers that leave the contract open resolve to one contract: the first interface,
under the name by which it is seen from the type. -/
theorem infer_of_isAmbiguous (ha : d.IsAmbiguous h) (hm : m.contract? = none) :
    (d.contractInterfaces h).head? = some (Contract.infer h d m).type ∧
      (Contract.infer h d m).name = (Contract.infer h d m).type.displayName d.ns ∧
      (Contract.implied h d).name = (Contract.infer h d m).name := by
  obtain ⟨i, rest, hinterfaces⟩ := List.exists_cons_of_length_pos (Nat.lt_of_succ_lt ha.2)
  have hinfer : Contract.infer h d m = .seenFrom d i .interface := by
    rw [Contract.infer, hm]
    simp only [Contract.implied, hinterfaces, List.head?_cons]
  have himplied : Contract.implied h d = .seenFrom d i .interface := by
    simp only [Contract.implied, hinterfaces, List.head?_cons]
  rw [hinfer, himplied, hinterfaces]
  exact ⟨rfl, rfl, rfl⟩

end Declaration

/-! ### The block of a type -/

/-- The settings with the warnings switched on or off. -/
def Settings.warning (settings : Settings) (on : Bool) : Settings :=
  { settings with warnsOnAmbiguity := on }

namespace Block

/-- The warning comes before everything else that is said of a type. -/
theorem diagnostics_full_warning :
    (full (settings.warning true) s d).diagnostics =
      (d.ambiguity? settings.host).toList ++
        (full (settings.warning false) s d).diagnostics := rfl

theorem finding_ne_of_mem_full :
    ∀ e ∈ (full (settings.warning false) s d).diagnostics, e.finding ≠ .ambiguousContract := by
  intro e he hfinding
  rcases mem_diagnostics_full he with ⟨hwarns, -⟩ | hhook
  · cases hwarns
  · rw [hfinding] at hhook
    exact absurd hhook (by decide)

/-- What is said of a type is about the choice of its contract exactly if it is the warning. -/
theorem filter_diagnostics_full :
    (full (settings.warning true) s d).diagnostics.filter (·.finding == .ambiguousContract) =
        (d.ambiguity? settings.host).toList ∧
      (full (settings.warning true) s d).diagnostics.filter (·.finding != .ambiguousContract) =
        (full (settings.warning false) s d).diagnostics := by
  have hwarning (e : Diagnostic) (he : e ∈ (d.ambiguity? settings.host).toList) :
      e.finding = .ambiguousContract :=
    d.finding_of_ambiguity? (Option.mem_toList.1 he)
  have hrest (e : Diagnostic) (he : e ∈ (full (settings.warning false) s d).diagnostics) :
      e.finding ≠ .ambiguousContract := finding_ne_of_mem_full e he
  rw [diagnostics_full_warning, List.filter_append, List.filter_append]
  constructor
  · have hall : (d.ambiguity? settings.host).toList.filter (·.finding == .ambiguousContract) =
        (d.ambiguity? settings.host).toList := List.filter_eq_self.2 (by simpa using hwarning)
    have hnone : (full (settings.warning false) s d).diagnostics.filter
        (·.finding == .ambiguousContract) = [] := List.filter_eq_nil_iff.2 (by simpa using hrest)
    rw [hall, hnone, List.append_nil]
  · have hnone : (d.ambiguity? settings.host).toList.filter (·.finding != .ambiguousContract) =
        [] := List.filter_eq_nil_iff.2 (by simpa using hwarning)
    have hall : (full (settings.warning false) s d).diagnostics.filter
        (·.finding != .ambiguousContract) = (full (settings.warning false) s d).diagnostics :=
      List.filter_eq_self.2 (by simpa using hrest)
    rw [hnone, hall, List.nil_append]

end Block

/-! ### The whole pass -/

/-- The warnings of a module, in the order of declaration. -/
theorem Snapshot.flatMap_ambiguity? (s : Snapshot) (h : Host) :
    s.types.flatMap (fun d => (d.ambiguity? h).toList) =
      (s.types.filter (·.IsAmbiguous h)).map (·.ambiguityWarning h) := by
  induction s.types with
  | nil => rfl
  | cons d ds ih =>
    rw [List.flatMap_cons, ih, d.ambiguity?_eq, List.filter_cons]
    by_cases ha : d.IsAmbiguous h
    · simp [ha]
    · simp [ha]

/-- Nothing but the report depends on the switch: the report without the warnings is that
of a pass which was not asked for them.  A pass that is not aborted warns once of each
ambiguous type, in the order of declaration, and names the contract that all markers of the
type which leave it open resolve to. -/
theorem warnings_observe_only (sched sched' : Schedule) (settings : Settings) (s : Snapshot) :
    (settings.warning false).planBy sched' s =
      { (settings.warning true).planBy sched s with
        report := ⟨((settings.warning true).planBy sched s).report.records.filter
          (·.finding != .ambiguousContract)⟩ } ∧
    (((settings.warning true).planBy sched s).isAborted = false →
      ((settings.warning true).planBy sched s).report.about .ambiguousContract =
        (s.types.filter (·.IsAmbiguous settings.host)).map (·.ambiguityWarning settings.host)) ∧
    ∀ d ∈ s.types, d.IsAmbiguous settings.host →
      ∀ m ∈ d.markersOf .register, m.contract? = none →
        d.ambiguityWarning settings.host = .make .ambiguousContract (.ofType d)
          [d.qualifiedName, toString (d.contractInterfaces settings.host).length,
            (Contract.infer settings.host d m).type.displayName d.ns] := by
  refine ⟨?_, ?_, ?_⟩
  · cases hpass : ((settings.warning true).planBy sched s).isAborted with
    | true =>
      -- the root that ends one pass ends the other
      obtain ⟨root, hroot, hpartial⟩ := Settings.isAborted_planBy_iff.1 hpass
      have hon : (settings.warning true).planBy sched s = s.abortedPlan root :=
        Settings.planBy_eq_abortedPlan hroot hpartial
      have hoff : (settings.warning false).planBy sched' s = s.abortedPlan root :=
        Settings.planBy_eq_abortedPlan hroot hpartial
      rw [hon, hoff]
      rfl
    | false =>
      have hpass' : ((settings.warning false).planBy sched' s).isAborted = false := by
        rw [← Bool.not_eq_true, Settings.isAborted_planBy_iff] at hpass ⊢
        exact hpass
      obtain ⟨hinstructions, hrecords⟩ := Settings.planBy_of_not_isAborted hpass
      obtain ⟨hinstructions', hrecords'⟩ := Settings.planBy_of_not_isAborted hpass'
      have hsame : ((settings.warning false).planBy sched' s).instructions =
          ((settings.warning true).planBy sched s).instructions := by
        rw [hinstructions, hinstructions']
        rfl
      have hreport : ((settings.warning false).planBy sched' s).report.records =
          ((settings.warning true).planBy sched s).report.records.filter
            (·.finding != .ambiguousContract) := by
        rw [hrecords, hrecords', List.filter_flatMap]
        simp only [Block.filter_diagnostics_full.2]
      calc (settings.warning false).planBy sched' s
          = ⟨((settings.warning false).planBy sched' s).instructions,
              s.planNamespace settings.host, (s.userRoot? settings.host).isSome, s.entryPoint,
              ⟨((settings.warning false).planBy sched' s).report.records⟩⟩ := rfl
        _ = ⟨((settings.warning true).planBy sched s).instructions,
              s.planNamespace settings.host, (s.userRoot? settings.host).isSome, s.entryPoint,
              ⟨((settings.warning true).planBy sched s).report.records.filter
                (·.finding != .ambiguousContract)⟩⟩ := by rw [hsame, hreport]
  · intro hpass
    rw [Report.about, (Settings.planBy_of_not_isAborted hpass).2, List.filter_flatMap]
    simp only [Block.filter_diagnostics_full.1]
    exact s.flatMap_ambiguity? settings.host
  · intro d hd ha m hm hcontract
    obtain ⟨-, hname, himplied⟩ := d.infer_of_isAmbiguous ha hcontract
    rw [Declaration.ambiguityWarning, himplied, hname]

namespace Choices

open Showcase (cls hook interfaceRef)

/-- A contract of the module. -/
def contract (name : String) : TypeExpr := .plain (interfaceRef "App" name)

/-- A class with two contracts and the equality interface before them, registered once as
it comes and once for the second. -/
def store : Declaration :=
  { cls "App" "Store" with
    interfaces :=
      [.apply (interfaceRef "System" "IEquatable") [.plain ⟨"App", "Store", .classType⟩],
        contract "IReader", contract "IWriter"]
    markers := [.bare .register, (Marker.bare .register).edits [.contract (contract "IWriter")]] }

/-- A class with the same contracts, registered for one that is named. -/
def cache : Declaration :=
  { store with
    name := "Cache"
    markers := [(Marker.bare .register).edits [.contract (contract "IReader")]] }

/-- A broken hook between the two. -/
def snapshot : Snapshot where
  name := "App"
  types := [store, { cls "App" "Startup" with methods := [hook "Configure" false] }, cache]
  rules := []
  faultless := by decide

end Choices

/-- Only the class whose contract was chosen is warned of. -/
theorem Choices.warned :
    (((Settings.forHost .microsoft).warning true).planBy .inOrder snapshot).isAborted = false ∧
      store.IsAmbiguous .microsoft ∧
      (((Settings.forHost .microsoft).warning true).planBy .inOrder snapshot).report.about
          .ambiguousContract =
        [.make .ambiguousContract (.ofType store) ["App.Store", "2", "App.IReader"]] := by
  have hpass : (((Settings.forHost .microsoft).warning true).planBy .inOrder
      snapshot).isAborted = false := Settings.isAborted_of_no_root rfl
  have hambiguous : store.IsAmbiguous .microsoft := by decide
  obtain ⟨-, habout, hnamed⟩ :=
    warnings_observe_only .inOrder .inOrder (.forHost .microsoft) snapshot
  have hargs : [store.qualifiedName, toString (store.contractInterfaces .microsoft).length,
      (Contract.infer .microsoft store (.bare .register)).type.displayName store.ns] =
      ["App.Store", "2", "App.IReader"] := by decide
  have hwarning : store.ambiguityWarning .microsoft =
      .make .ambiguousContract (.ofType store) ["App.Store", "2", "App.IReader"] := by
    rw [← hargs]
    exact hnamed store List.mem_cons_self hambiguous (.bare .register) List.mem_cons_self rfl
  have honly : snapshot.types.filter (·.IsAmbiguous .microsoft) = [store] := rfl
  have hwarnings : (snapshot.types.filter (·.IsAmbiguous .microsoft)).map
      (·.ambiguityWarning .microsoft) =
        [.make .ambiguousContract (.ofType store) ["App.Store", "2", "App.IReader"]] := by
    rw [honly, List.map_singleton, hwarning]
  exact ⟨hpass, hambiguous, (habout hpass).trans hwarnings⟩

end InjectionPlan
