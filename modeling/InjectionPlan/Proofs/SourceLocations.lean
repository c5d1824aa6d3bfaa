import InjectionPlan.Proofs.HookAccounts

/-! # Where dropped sources are reported

    A hook that makes its type a source of registrations is dropped with an error if the
    type is no composition root of the host.  The error should point at the method that is
    dropped.  When it is made, only the method's name is at hand, and it points at the first
    method of that name, be that marked or not.

    - `sourceErrors_of_drops`: a dropped source gives one error, at the first method of its
      name;
    - `sourceErrors_of_not_drops`: no other method gives such an error;
    - `source_errors_located`: so the error points at the right place exactly if the first
      method of the name stands at the same place.  Overloads do not
      (`Overloads.not_all_located`).
-/

namespace InjectionPlan

variable {s : Snapshot} {d : Declaration} {m first : Method} {k : Marker} {h : Host}
  {settings : Settings} {sched : Schedule}

namespace Declaration

/-- The method is a source of registrations that keeps all structural rules, in a type that
is no composition root of the host. -/
structure Drops (d : Declaration) (h : Host) (s : Snapshot) (m : Method) (k : Marker) : Prop where
  /-- The marker makes the method a hook. -/
  marked : m.marker? .registrationExtension = some k
  /-- The marker makes the type a source of registrations. -/
  source : k.isSource = true
  /-- No structural rule is broken. -/
  kept : ∀ f, ¬ m.Breaks h k f
  /-- The type does not implement the root contract, if the host has one. -/
  noRoot : ∀ c, h.rootContract = some c → s.implements d c = false

/-- What a method gives to the report about the host's root contract. -/
def sourceErrors (d : Declaration) (h : Host) (s : Snapshot) (m : Method) : List Diagnostic :=
  (d.refusals h s m).filter (·.finding == .sourceNotRoot)

/-! ### Dropped sources -/

theorem Drops.isComposedBy_eq_false (hdrops : d.Drops h s m k) : d.isComposedBy h s = false := by
  rw [← Bool.not_eq_true, isComposedBy_iff]
  rintro ⟨c, hc, himplements⟩
  rw [hdrops.noRoot c hc] at himplements
  cases himplements

theorem hookFaults_eq_nil_of_kept (hkept : ∀ f, ¬ m.Breaks h k f) :
    m.hookFaults h (.ofMarker k) = [] := by
  apply List.eq_nil_iff_forall_not_mem.2
  intro f hf
  exact hkept f (Method.mem_hookFaults_iff.1 hf)

/-- A dropped source is refused for the contract, and for nothing else. -/
theorem refusals_of_drops (hdrops : d.Drops h s m k) :
    d.refusals h s m = [d.sourceError h (d.hookCall h m (.ofMarker k))] := by
  have hvalid : (d.hookCall h m (.ofMarker k)).isValid = true :=
    (d.isValid_hookCall_iff _).2 (hookFaults_eq_nil_of_kept hdrops.kept)
  have hkind : (d.hookCall h m (.ofMarker k)).kind = .compositionSource := by
    simp [hookCall, HookKind.ofMarker, hdrops.source]
  rw [refusals, settlement?_of_marker? hdrops.marked]
  simp [Settlement.of, hvalid, hkind, hdrops.isComposedBy_eq_false, Settlement.dropped]

/-- The error of a dropped source points at the first method of its name. -/
theorem sourceErrors_of_drops (hdrops : d.Drops h s m k)
    (hfirst : d.methods.find? (·.name == m.name) = some first) :
    d.sourceErrors h s m =
      [.make .sourceNotRoot (.ofMethod d first)
        [m.name, d.name, h.rootContract.getD "a composition root contract"]] := by
  rw [sourceErrors, refusals_of_drops hdrops, sourceError_of_find? hfirst]
  rfl

/-! ### All other methods -/

/-- A hook that keeps the structural rules and is not called is a dropped source. -/
theorem drops_of_not_admits (hk : m.marker? .registrationExtension = some k)
    (hkept : ∀ f, ¬ m.Breaks h k f) (hnot : ¬ d.Admits h s m k) : d.Drops h s m k := by
  obtain ⟨haccess, hstatic, hparameter⟩ :=
    Method.hookFaults_eq_nil_iff.1 (hookFaults_eq_nil_of_kept hkept)
  -- all that is left to stand against the call is the contract
  have hroot : ¬ (k.isSource = true → ∃ c, h.rootContract = some c ∧ s.implements d c = true) :=
    fun hroot => hnot ⟨haccess, hstatic, hparameter, hroot⟩
  obtain ⟨hsource, hnone⟩ := Classical.not_imp.1 hroot
  refine ⟨hk, hsource, hkept, ?_⟩
  intro c hc
  rw [← Bool.not_eq_true]
  exact fun himplements => hnone ⟨c, hc, himplements⟩

/-- A method that is not dropped as a source gives no error about the contract. -/
theorem sourceErrors_of_not_drops (hm : m ∈ d.methods) (hnot : ∀ k, ¬ d.Drops h s m k) :
    d.sourceErrors h s m = [] := by
  rw [sourceErrors, List.filter_eq_nil_iff]
  intro e he
  cases hk : m.marker? .registrationExtension with
  | none =>
    rw [(gives_nothing hk).2] at he
    cases he
  | some k =>
    rcases hook_cases (h := h) (s := s) hm hk with ⟨-, -, hnone⟩ | ⟨hrefused, -, hrefuses⟩
    · rw [hnone] at he
      cases he
    · -- the hook is refused, but not for the contract, so it breaks a structural rule
      have hbroken : ∃ f, m.Breaks h k f := by
        by_contra hkept
        exact hnot k (drops_of_not_admits hk (not_exists.1 hkept) hrefused)
      have hrule : m.Breaks h k e.finding :=
        ((hrefuses.broken hbroken).2 _).1 (List.mem_map_of_mem he)
      intro hcontract
      have hfinding : e.finding = .sourceNotRoot := by simpa using hcontract
      rw [hfinding] at hrule
      exact hrule

/-! ### Places -/

/-- Methods of one name are at one place if they, or the type for them, say so. -/
theorem ofMethod_eq_iff (hname : first.name = m.name) :
    Location.ofMethod d first = .ofMethod d m ↔ first.span.or d.span = m.span.or d.span := by
  simp [Location.ofMethod, hname]

end Declaration

/-- What a block reports about root contracts comes from its methods. -/
theorem Block.filter_sourceNotRoot :
    (full settings s d).diagnostics.filter (·.finding == .sourceNotRoot) =
      d.methods.flatMap (d.sourceErrors settings.host s) := by
  have hwarning : (if settings.warnsOnAmbiguity then (d.ambiguity? settings.host).toList
      else []).filter (·.finding == .sourceNotRoot) = [] := by
    rw [List.filter_eq_nil_iff]
    intro e he
    have he : d.ambiguity? settings.host = some e := by
      split at he
      · simpa using he
      · cases he
    rw [Declaration.finding_of_ambiguity? he]
    decide
  rw [diagnostics_full, List.filter_append, hwarning, List.filter_flatMap]
  rfl

/-- In a pass that is not aborted, what is reported about root contracts are the errors of
dropped sources, method by method.  A dropped source gives one error.  It names the method,
and its place is that of the first method of the name in the type.  So it points at the
dropped method exactly if both have the same place, of their own or from the type. -/
theorem source_errors_located (hpass : (settings.planBy sched s).isAborted = false) :
    (settings.planBy sched s).report.about .sourceNotRoot =
      (s.types.flatMap fun d => d.methods.flatMap (d.sourceErrors settings.host s)) ∧
    ∀ d ∈ s.types, ∀ m ∈ d.methods,
      ((∀ k, ¬ d.Drops settings.host s m k) → d.sourceErrors settings.host s m = []) ∧
      ∀ k, d.Drops settings.host s m k →
        ∃ first, d.methods.find? (·.name == m.name) = some first ∧
          d.sourceErrors settings.host s m =
            [.make .sourceNotRoot (.ofMethod d first)
              [m.name, d.name, settings.host.rootContract.getD "a composition root contract"]] ∧
          ((∀ e ∈ d.sourceErrors settings.host s m, e.location = .ofMethod d m) ↔
            first.span.or d.span = m.span.or d.span) := by
  constructor
  · rw [Report.about, (Settings.planBy_of_not_isAborted hpass).2, List.filter_flatMap]
    simp only [Block.filter_sourceNotRoot]
  · intro d _ m hm
    refine ⟨Declaration.sourceErrors_of_not_drops hm, ?_⟩
    intro k hdrops
    obtain ⟨first, hfirst, hname⟩ := Declaration.exists_first_of_name hm
    have herrors := Declaration.sourceErrors_of_drops hdrops hfirst
    refine ⟨first, hfirst, herrors, ?_⟩
    rw [herrors, List.forall_mem_singleton]
    exact Declaration.ofMethod_eq_iff hname

namespace Overloads

/-- The marker of a source of registrations. -/
def source : Marker := (Marker.bare .registrationExtension).edits [.compositionSource]

/-- A method without a marker. -/
def helper : Method where
  name := "Compose"
  access := .typeOnly
  isStatic := false
  parameters := []
  markers := []
  span := some ⟨"Tools.cs", 3, 5⟩

/-- A source of the same name. -/
def compose : Method :=
  { Showcase.hook "Compose" false with
    markers := [source]
    span := some ⟨"Tools.cs", 9, 5⟩ }

/-- A class with both, which is no composition root. -/
def tools : Declaration := { Showcase.cls "App" "Tools" with methods := [helper, compose] }

/-- A module with this class. -/
def snapshot : Snapshot where
  name := "App"
  types := [tools]
  rules := []
  faultless := by decide

theorem drops_compose : tools.Drops .lightInject snapshot compose source where
  marked := rfl
  source := by decide
  kept := by
    intro f hf
    have hfault : f ∈ compose.hookFaults .lightInject (.ofMarker source) :=
      Method.mem_hookFaults_iff.2 hf
    have hnone : compose.hookFaults .lightInject (.ofMarker source) = [] := rfl
    rw [hnone] at hfault
    cases hfault
  noRoot := by
    intro c _
    rw [Snapshot.implements, InterfaceWalk.interfacesOf_eq_iterate 1 rfl]
    rfl

theorem not_isAborted :
    ((Settings.forHost .lightInject).planBy .inOrder snapshot).isAborted = false :=
  Settings.isAborted_of_no_root rfl

end Overloads

/-- The only error about a root contract stands at line 3, where the method without a marker
is declared, and not at line 9. -/
theorem Overloads.located_at_helper :
    tools ∈ snapshot.types ∧ helper ∈ tools.methods ∧ compose ∈ tools.methods ∧
    ((Settings.forHost .lightInject).planBy .inOrder snapshot).report.about .sourceNotRoot =
      [.make .sourceNotRoot ⟨"App.Tools", some "Compose", some ⟨"Tools.cs", 3, 5⟩⟩
        ["Compose", "Tools", "LightInject.ICompositionRoot"]] ∧
    ¬ ∀ e ∈ tools.sourceErrors .lightInject snapshot compose,
      e.location = .ofMethod tools compose := by
  have htools : tools ∈ snapshot.types := List.mem_cons_self
  have hhelper : helper ∈ tools.methods := List.mem_cons_self
  have hcompose : compose ∈ tools.methods := by simp [tools]
  obtain ⟨habout, hmethods⟩ := source_errors_located not_isAborted
  have hnone : tools.sourceErrors .lightInject snapshot helper = [] := by
    apply (hmethods tools htools helper hhelper).1
    intro k hdrops
    cases hdrops.marked
  obtain ⟨first, hfirst, herror, hplace⟩ :=
    (hmethods tools htools compose hcompose).2 source drops_compose
  obtain rfl : helper = first := Option.some.inj hfirst
  have herror : tools.sourceErrors .lightInject snapshot compose =
      [.make .sourceNotRoot (.ofMethod tools helper)
        ["Compose", "Tools", "LightInject.ICompositionRoot"]] := herror
  refine ⟨htools, hhelper, hcompose, ?_, hplace.not.2 (by decide)⟩
  calc ((Settings.forHost .lightInject).planBy .inOrder snapshot).report.about .sourceNotRoot
      = tools.sourceErrors .lightInject snapshot helper ++
          (tools.sourceErrors .lightInject snapshot compose ++ []) ++ [] := habout
    _ = [.make .sourceNotRoot (.ofMethod tools helper)
          ["Compose", "Tools", "LightInject.ICompositionRoot"]] := by rw [hnone, herror]; rfl
    _ = _ := by decide

/-- An error does not always point at the method that has caused it. -/
theorem Overloads.not_all_located :
    ¬ ∀ (settings : Settings) (sched : Schedule) (s : Snapshot),
      (settings.planBy sched s).isAborted = false →
      ∀ d ∈ s.types, ∀ m ∈ d.methods, ∀ k, d.Drops settings.host s m k →
        ∀ e ∈ d.sourceErrors settings.host s m, e.location = .ofMethod d m := by
  intro hall
  have hlocated := hall (.forHost .lightInject) .inOrder snapshot not_isAborted tools
    List.mem_cons_self compose (by simp [tools]) source drops_compose
  -- the first method of the name is the helper
  have hfirst : tools.methods.find? (·.name == compose.name) = some helper := rfl
  have herrors := Declaration.sourceErrors_of_drops drops_compose hfirst
  have hplace : Location.ofMethod tools helper = .ofMethod tools compose := by
    apply hlocated (.make .sourceNotRoot (.ofMethod tools helper) _)
    exact herrors ▸ List.mem_cons_self
  exact absurd hplace (by decide)

end InjectionPlan
