import InjectionPlan.Proofs.InterfaceWalk
import InjectionPlan.Proofs.Outcome

/-! # What becomes of every hook

    A hook is checked twice: for the structural rules, where all faults are kept, and,
    if it has none and makes its type a source of registrations, for the host's root
    contract.  A pass that is not aborted loses no hook on the way: each one is either
    called once and says nothing, or is not called and says why (`hooks_accounted`).

    What the plan takes from a type is put together from what each of its methods gives
    (`Block.instructions_full`, `Block.diagnostics_full`), so it is enough to follow one
    method.
-/

namespace InjectionPlan

variable {s : Snapshot} {d : Declaration} {m : Method} {k : Marker} {h : Host}
  {settings : Settings} {sched : Schedule}

/-! ### The structural rules -/

theorem Access.isCallable_iff {a : Access} :
    a.isCallable = true ↔ a = .everyone ∨ a = .moduleOnly := by
  cases a <;> decide

theorem HookKind.ofMarker_eq_staticCall_iff :
    HookKind.ofMarker k = .staticCall ↔ k.isSource = false := by
  cases hk : k.isSource <;> simp [ofMarker, hk]

namespace Method

/-- What it means that a hook breaks a rule. -/
def Breaks (m : Method) (h : Host) (k : Marker) : Finding → Prop
  | .hookNotAccessible => m.access ≠ .everyone ∧ m.access ≠ .moduleOnly
  | .hookNotStatic => m.isStatic = false ∧ k.isSource = false
  | .hookParameterCount => m.parameters.length ≠ 1
  | .hookParameterType => ∀ p ∈ m.parameters.head?, p.type.qualifiedName ≠ h.registryType
  | _ => False

theorem takesRegistry_eq_false_iff :
    m.takesRegistry h = false ↔
      ∀ p ∈ m.parameters.head?, p.type.qualifiedName ≠ h.registryType := by
  cases hp : m.parameters.head? <;> simp [takesRegistry, hp, Host.isRegistry]

theorem mem_hookFaults_iff {f : Finding} :
    f ∈ m.hookFaults h (.ofMarker k) ↔ m.Breaks h k f := by
  have haccess : m.access.isCallable = false ↔
      m.access ≠ .everyone ∧ m.access ≠ .moduleOnly := by
    rw [← not_or, ← Access.isCallable_iff, Bool.not_eq_true]
  have hstatic : (HookKind.ofMarker k == .staticCall && !m.isStatic) = true ↔
      m.isStatic = false ∧ k.isSource = false := by
    rw [Bool.and_eq_true, beq_iff_eq, HookKind.ofMarker_eq_staticCall_iff, Bool.not_eq_true',
      and_comm]
  simp only [hookFaults, List.mem_append, List.mem_ite_nil_left, List.mem_ite_nil_right,
    List.mem_singleton, Bool.not_eq_true, beq_eq_false_iff_ne, haccess, hstatic,
    takesRegistry_eq_false_iff]
  cases f <;> simp [Breaks]

/-- No rule is reported twice. -/
theorem nodup_hookFaults (m : Method) (h : Host) (kind : HookKind) :
    (m.hookFaults h kind).Nodup :=
  (m.hookFaults_sublist h kind).nodup (by decide)

/-- A hook without faults keeps all rules. -/
theorem hookFaults_eq_nil_iff :
    m.hookFaults h (.ofMarker k) = [] ↔
      (m.access = .everyone ∨ m.access = .moduleOnly) ∧
      (m.isStatic = true ∨ k.isSource = true) ∧
      ∃ p, m.parameters = [p] ∧ p.type.qualifiedName = h.registryType := by
  rw [List.eq_nil_iff_forall_not_mem]
  constructor
  · intro hnone
    have kept (f : Finding) : ¬ m.Breaks h k f := fun hf => hnone f (mem_hookFaults_iff.2 hf)
    refine ⟨?_, ?_, ?_⟩
    · simpa [Breaks, or_iff_not_imp_left] using kept .hookNotAccessible
    · simpa [Breaks, or_iff_not_imp_left] using kept .hookNotStatic
    · have hcount : m.parameters.length = 1 := by simpa [Breaks] using kept .hookParameterCount
      obtain ⟨p, hp⟩ := List.length_eq_one_iff.1 hcount
      exact ⟨p, hp, by simpa [Breaks, hp] using kept .hookParameterType⟩
  · rintro ⟨haccess, hstatic, p, hp, htype⟩ f hf
    have hbroken : m.Breaks h k f := mem_hookFaults_iff.1 hf
    cases f with
    | hookNotAccessible => exact haccess.elim hbroken.1 hbroken.2
    | hookNotStatic =>
      obtain ⟨hnot, hno⟩ := hbroken
      simp [hnot, hno] at hstatic
    | hookParameterCount => exact hbroken (by rw [hp]; rfl)
    | hookParameterType => exact hbroken p (by rw [hp]; rfl) htype
    | rootNotPartial => exact hbroken
    | sourceNotRoot => exact hbroken
    | ambiguousContract => exact hbroken

end Method

/-! ### One method -/

namespace Declaration

/-- What becomes of a method, if it is a hook. -/
def settlement? (d : Declaration) (h : Host) (s : Snapshot) (m : Method) : Option Settlement :=
  (d.hookCall? h m).map (Settlement.of h s d)

/-- The call that a method gives to the plan. -/
def madeCall? (d : Declaration) (h : Host) (s : Snapshot) (m : Method) : Option HookCall :=
  (d.settlement? h s m).bind (·.call)

/-- The diagnostics that a method gives to the report. -/
def refusals (d : Declaration) (h : Host) (s : Snapshot) (m : Method) : List Diagnostic :=
  (d.settlement? h s m).toList.flatMap (·.diagnostics)

/-- The conditions under which a hook is called. -/
structure Admits (d : Declaration) (h : Host) (s : Snapshot) (m : Method) (k : Marker) :
    Prop where
  /-- The module can call it. -/
  access : m.access = .everyone ∨ m.access = .moduleOnly
  /-- No instance is needed to call it, or its type is made by the host. -/
  static : m.isStatic = true ∨ k.isSource = true
  /-- It takes the registry and nothing else. -/
  parameter : ∃ p, m.parameters = [p] ∧ p.type.qualifiedName = h.registryType
  /-- A source of registrations is a composition root of the host. -/
  root : k.isSource = true → ∃ c, h.rootContract = some c ∧ s.implements d c = true

/-- What is reported of a hook that is not called. -/
structure Refuses (d : Declaration) (h : Host) (m : Method) (k : Marker)
    (es : List Diagnostic) : Prop where
  /-- Something is reported. -/
  reported : es ≠ []
  /-- All of it is an error, at the type and the method. -/
  located : ∀ e ∈ es, e.severity = .error ∧ e.location.typeName = d.qualifiedName ∧
    e.location.member = some m.name
  /-- Of the structural rules, exactly the broken ones are reported, each of them once. -/
  broken : (∃ f, m.Breaks h k f) →
    (es.map (·.finding)).Nodup ∧ ∀ f, f ∈ es.map (·.finding) ↔ m.Breaks h k f
  /-- If all structural rules are kept, only the contract is missed. -/
  contract : (¬ ∃ f, m.Breaks h k f) → es.map (·.finding) = [.sourceNotRoot]

theorem isComposedBy_iff :
    d.isComposedBy h s = true ↔ ∃ c, h.rootContract = some c ∧ s.implements d c = true := by
  rw [isComposedBy, Option.any_eq_true]

/-- The errors of a hook are those of the rules that it breaks. -/
theorem map_finding_errors (kind : HookKind) :
    (d.hookCall h m kind).errors.map (·.finding) = m.hookFaults h kind := by
  simp [hookCall, Diagnostic.make, Function.comp_def]

theorem isValid_hookCall_iff (kind : HookKind) :
    (d.hookCall h m kind).isValid = true ↔ m.hookFaults h kind = [] := by
  rw [HookCall.isValid, List.isEmpty_iff, ← map_finding_errors (d := d), List.map_eq_nil_iff]

/-- Some method of a name comes first. -/
theorem exists_first_of_name (hm : m ∈ d.methods) :
    ∃ first, d.methods.find? (·.name == m.name) = some first ∧ first.name = m.name := by
  obtain ⟨first, hfirst⟩ : ∃ first, d.methods.find? (·.name == m.name) = some first :=
    Option.isSome_iff_exists.1 (List.find?_isSome.2 ⟨m, hm, beq_self_eq_true m.name⟩)
  have hname : first.name = m.name := by simpa using List.find?_some hfirst
  exact ⟨first, hfirst, hname⟩

/-- A method that is known by its name only is placed at the first one of that name. -/
theorem sourceError_of_find? {first : Method}
    (hfirst : d.methods.find? (·.name == m.name) = some first) (kind : HookKind) :
    d.sourceError h (d.hookCall h m kind) =
      .make .sourceNotRoot (.ofMethod d first)
        [m.name, d.name, h.rootContract.getD "a composition root contract"] := by
  simp only [sourceError, locationOfName, hookCall, hfirst]

theorem location_sourceError (hm : m ∈ d.methods) (kind : HookKind) :
    (d.sourceError h (d.hookCall h m kind)).location.typeName = d.qualifiedName ∧
      (d.sourceError h (d.hookCall h m kind)).location.member = some m.name := by
  obtain ⟨first, hfirst, hname⟩ := exists_first_of_name hm
  rw [sourceError_of_find? hfirst, ← hname]
  exact ⟨rfl, rfl⟩

/-- A hook with a fault is rejected for its faults. -/
theorem Refuses.of_faults (hfaults : m.hookFaults h (.ofMarker k) ≠ []) :
    d.Refuses h m k (d.hookCall h m (.ofMarker k)).errors where
  reported := by
    rw [← map_finding_errors (d := d)] at hfaults
    exact fun hnil => hfaults (by rw [hnil]; rfl)
  located := by
    intro e he
    obtain ⟨f, hf, rfl⟩ := List.mem_map.1 he
    have hseverity : f.severity = .error := by
      have hbroken : m.Breaks h k f := Method.mem_hookFaults_iff.1 hf
      cases f with
      | ambiguousContract => exact hbroken.elim
      | _ => rfl
    exact ⟨hseverity, rfl, rfl⟩
  broken := by
    intro _
    rw [map_finding_errors]
    exact ⟨m.nodup_hookFaults h _, fun f => Method.mem_hookFaults_iff⟩
  contract := by
    intro hnone
    obtain ⟨f, hf⟩ := List.exists_mem_of_ne_nil _ hfaults
    exact absurd ⟨f, Method.mem_hookFaults_iff.1 hf⟩ hnone

/-- A source without structural faults is dropped for the contract alone. -/
theorem Refuses.of_source (hm : m ∈ d.methods) (hfaults : m.hookFaults h (.ofMarker k) = []) :
    d.Refuses h m k [d.sourceError h (d.hookCall h m (.ofMarker k))] where
  reported := List.cons_ne_nil _ _
  located := by
    intro e he
    obtain rfl := List.mem_singleton.1 he
    exact ⟨rfl, location_sourceError hm _⟩
  broken := by
    rintro ⟨f, hf⟩
    rw [← Method.mem_hookFaults_iff, hfaults] at hf
    cases hf
  contract := fun _ => rfl

/-- What a method gives depends on its first marker as a hook only. -/
theorem settlement?_of_marker? (hk : m.marker? .registrationExtension = some k) :
    d.settlement? h s m = some (Settlement.of h s d (d.hookCall h m (.ofMarker k))) := by
  rw [settlement?, hookCall?, hk]
  rfl

end Declaration

namespace Settlement

/-- A hook is called exactly if nothing stands against it. -/
theorem of_admits (ha : d.Admits h s m k) :
    (of h s d (d.hookCall h m (.ofMarker k))).call =
        some ⟨d.qualifiedName, m.name, .ofMarker k, []⟩ ∧
      (of h s d (d.hookCall h m (.ofMarker k))).diagnostics = [] := by
  have hfaults : m.hookFaults h (.ofMarker k) = [] :=
    Method.hookFaults_eq_nil_iff.2 ⟨ha.access, ha.static, ha.parameter⟩
  have hvalid := (d.isValid_hookCall_iff (m := m) (h := h) (.ofMarker k)).2 hfaults
  have hcall : d.hookCall h m (.ofMarker k) = ⟨d.qualifiedName, m.name, .ofMarker k, []⟩ := by
    rw [Declaration.hookCall, hfaults]
    rfl
  rw [of, hvalid, hcall]
  by_cases hsource : k.isSource = true
  · have hcomposed := Declaration.isComposedBy_iff.2 (ha.root hsource)
    simp [HookKind.ofMarker, hsource, hcomposed, accepted]
  · simp [HookKind.ofMarker, hsource, accepted]

theorem of_not_admits (hm : m ∈ d.methods) (hnot : ¬ d.Admits h s m k) :
    (of h s d (d.hookCall h m (.ofMarker k))).call = none ∧
      d.Refuses h m k (of h s d (d.hookCall h m (.ofMarker k))).diagnostics := by
  by_cases hfaults : m.hookFaults h (.ofMarker k) = []
  · -- the rules are kept, so it is the contract that is missed
    obtain ⟨haccess, hstatic, hparameter⟩ := Method.hookFaults_eq_nil_iff.1 hfaults
    have hroot : ¬ (k.isSource = true → d.isComposedBy h s = true) := by
      intro hroot
      exact hnot ⟨haccess, hstatic, hparameter,
        fun hsource => Declaration.isComposedBy_iff.1 (hroot hsource)⟩
    obtain ⟨hsource, hcomposed⟩ := Classical.not_imp.1 hroot
    have hkind : (d.hookCall h m (.ofMarker k)).kind = .compositionSource := by
      simp [Declaration.hookCall, HookKind.ofMarker, hsource]
    rw [of, (d.isValid_hookCall_iff _).2 hfaults, hkind]
    simp only [hcomposed, dropped]
    exact ⟨rfl, Declaration.Refuses.of_source hm hfaults⟩
  · have hvalid : (d.hookCall h m (.ofMarker k)).isValid = false := by
      rw [← Bool.not_eq_true, d.isValid_hookCall_iff]
      exact hfaults
    rw [of, hvalid]
    exact ⟨rfl, Declaration.Refuses.of_faults hfaults⟩

end Settlement

namespace Declaration

theorem gives_nothing (hnone : m.marker? .registrationExtension = none) :
    d.madeCall? h s m = none ∧ d.refusals h s m = [] := by
  simp [madeCall?, refusals, settlement?, hookCall?, hnone]

/-- A hook either gives its call and nothing else, or no call and the reasons. -/
theorem hook_cases (hm : m ∈ d.methods) (hk : m.marker? .registrationExtension = some k) :
    (d.Admits h s m k ∧
        d.madeCall? h s m = some ⟨d.qualifiedName, m.name, .ofMarker k, []⟩ ∧
        d.refusals h s m = []) ∨
      (¬ d.Admits h s m k ∧ d.madeCall? h s m = none ∧
        d.Refuses h m k (d.refusals h s m)) := by
  rw [madeCall?, refusals, settlement?_of_marker? hk]
  simp only [Option.bind_some, Option.toList_some, List.flatMap_singleton]
  by_cases hadmits : d.Admits h s m k
  · exact .inl ⟨hadmits, Settlement.of_admits hadmits⟩
  · exact .inr ⟨hadmits, Settlement.of_not_admits hm hadmits⟩

end Declaration

/-! ### One type -/

namespace Block

/-- The instructions of a block: registrations, the decoration, and what each method gives. -/
theorem instructions_full :
    (full settings s d).instructions =
      (d.registrations settings.host).map .register ++
        (d.decoration? settings.host).toList.map .decorate ++
        (d.methods.filterMap (d.madeCall? settings.host s)).map .call := by
  have hcalls : ((d.hookCalls settings.host).map (Settlement.of settings.host s d)).filterMap
      (·.call) = d.methods.filterMap (d.madeCall? settings.host s) := by
    rw [Declaration.hookCalls, List.map_filterMap, List.filterMap_filterMap]
    rfl
  rw [full, hcalls]

/-- The diagnostics of a block: the warning, if it is wanted, and what each method gives. -/
theorem diagnostics_full :
    (full settings s d).diagnostics =
      (if settings.warnsOnAmbiguity then (d.ambiguity? settings.host).toList else []) ++
        d.methods.flatMap (d.refusals settings.host s) := by
  have hrefusals : ((d.hookCalls settings.host).map (Settlement.of settings.host s d)).flatMap
      (·.diagnostics) = d.methods.flatMap (d.refusals settings.host s) := by
    rw [Declaration.hookCalls, List.map_filterMap, List.filterMap_eq_flatMap_toList,
      List.flatMap_assoc]
    rfl
  rw [full, hrefusals]

end Block

/-! ### The whole pass -/

/-- A pass that is not aborted is put together from the methods of its types, each of
which gives what it gives once and in its place.  A method without a marker for it gives
nothing.  A hook that may be called gives its call and nothing else.  Any other hook gives
no call and is reported. -/
theorem hooks_accounted (hpass : (settings.planBy sched s).isAborted = false) :
    (settings.planBy sched s).instructions =
      (s.types.flatMap fun d =>
        (d.registrations settings.host).map .register ++
          (d.decoration? settings.host).toList.map .decorate ++
          (d.methods.filterMap (d.madeCall? settings.host s)).map .call) ++
      ((Expansion.all settings.host s).flatMap (·.registrations)).map .register ∧
    (settings.planBy sched s).report.records =
      (s.types.flatMap fun d =>
        (if settings.warnsOnAmbiguity then (d.ambiguity? settings.host).toList else []) ++
          d.methods.flatMap (d.refusals settings.host s)) ∧
    ∀ d ∈ s.types, ∀ m ∈ d.methods,
      ((∀ k ∈ m.markers, k.kind ≠ .registrationExtension) →
        d.madeCall? settings.host s m = none ∧ d.refusals settings.host s m = []) ∧
      ∀ k, m.marker? .registrationExtension = some k →
        (d.Admits settings.host s m k ∧
          d.madeCall? settings.host s m = some ⟨d.qualifiedName, m.name, .ofMarker k, []⟩ ∧
          d.refusals settings.host s m = []) ∨
        (¬ d.Admits settings.host s m k ∧ d.madeCall? settings.host s m = none ∧
          d.Refuses settings.host m k (d.refusals settings.host s m)) := by
  obtain ⟨hinstructions, hrecords⟩ := Settings.planBy_of_not_isAborted hpass
  refine ⟨?_, ?_, ?_⟩
  · simp only [hinstructions, Block.instructions_full]
  · simp only [hrecords, Block.diagnostics_full]
  · intro d hd m hm
    refine ⟨?_, fun k hk => Declaration.hook_cases hm hk⟩
    intro hunmarked
    apply Declaration.gives_nothing
    rw [Method.marker?, List.find?_eq_none]
    intro k hk
    simpa using hunmarked k hk

namespace Startup

open Showcase (cls hook interfaceRef)

/-- A marker that makes the type of a hook a source of registrations. -/
def source : Marker := (Marker.bare .registrationExtension).edits [.compositionSource]

/-- A hook with that marker. -/
def compose : Method := { hook "Compose" false with markers := [source] }

/-- A hook that breaks every structural rule, under the name of one that breaks none. -/
def hidden : Method :=
  { hook "Configure" false with
    access := .heirs
    parameters := [] }

/-- A composition root of the host, with a good hook, a broken one and a source. -/
def startup : Declaration :=
  { cls "App" "Startup" with
    interfaces := [.plain (interfaceRef "LightInject" "ICompositionRoot")]
    methods := [hook "Configure" true, hidden, compose] }

/-- The same source in a class that is no composition root. -/
def tools : Declaration := { cls "App" "Tools" with methods := [compose] }

/-- The two classes. -/
def snapshot : Snapshot where
  name := "App"
  types := [startup, tools]
  rules := []
  faultless := by decide

end Startup

/-- Two hooks are called and two are refused, one for all structural rules and one for the
contract. -/
theorem Startup.accounted :
    ((Settings.forHost .lightInject).planBy .inOrder snapshot).isAborted = false ∧
      startup.madeCall? .lightInject snapshot (Showcase.hook "Configure" true) =
        some ⟨"App.Startup", "Configure", .staticCall, []⟩ ∧
      (startup.refusals .lightInject snapshot hidden).map (·.finding) =
        [.hookNotAccessible, .hookNotStatic, .hookParameterCount, .hookParameterType] ∧
      startup.madeCall? .lightInject snapshot compose =
        some ⟨"App.Startup", "Compose", .compositionSource, []⟩ ∧
      (tools.refusals .lightInject snapshot compose).map (·.finding) = [.sourceNotRoot] := by
  have hpass : ((Settings.forHost .lightInject).planBy .inOrder snapshot).isAborted = false :=
    Settings.isAborted_of_no_root rfl
  obtain ⟨-, -, haccounted⟩ := hooks_accounted hpass
  have hstartup : startup ∈ snapshot.types := by simp [snapshot]
  have htools : tools ∈ snapshot.types := by simp [snapshot]
  have hroot : snapshot.implements startup "LightInject.ICompositionRoot" = true := by
    rw [Snapshot.implements, InterfaceWalk.interfacesOf_eq_iterate 2 rfl]
    decide
  have hnoRoot : snapshot.implements tools "LightInject.ICompositionRoot" = false := by
    rw [Snapshot.implements, InterfaceWalk.interfacesOf_eq_iterate 1 rfl]
    rfl
  have hparameter : ∃ p, compose.parameters = [p] ∧
      p.type.qualifiedName = Host.lightInject.registryType := ⟨_, rfl, by decide⟩
  refine ⟨hpass, ?_, rfl, ?_, ?_⟩
  · obtain ⟨-, hcall, -⟩ | ⟨hnot, -⟩ := (haccounted startup hstartup _ List.mem_cons_self).2 _ rfl
    · exact hcall
    · have hstatic : Marker.isSource (.bare .registrationExtension) ≠ true := by decide
      exact absurd ⟨.inl rfl, .inl rfl, ⟨_, rfl, by decide⟩, fun h => absurd h hstatic⟩ hnot
  · have hcompose : compose ∈ startup.methods := by simp [startup]
    obtain ⟨-, hcall, -⟩ | ⟨hnot, -⟩ := (haccounted startup hstartup _ hcompose).2 _ rfl
    · exact hcall
    · exact absurd ⟨.inl rfl, .inr (by decide), hparameter, fun _ => ⟨_, rfl, hroot⟩⟩ hnot
  · obtain ⟨hadmits, -⟩ | ⟨-, -, hrefuses⟩ := (haccounted tools htools _ List.mem_cons_self).2 _ rfl
    · obtain ⟨c, hc, himplements⟩ := hadmits.root (by decide)
      cases hc
      rw [hnoRoot] at himplements
      cases himplements
    · apply hrefuses.contract
      have hkept : compose.hookFaults .lightInject (.ofMarker source) = [] := rfl
      rintro ⟨f, hf⟩
      have hfault : f ∈ compose.hookFaults .lightInject (.ofMarker source) :=
        Method.mem_hookFaults_iff.2 hf
      rw [hkept] at hfault
      cases hfault

end InjectionPlan
