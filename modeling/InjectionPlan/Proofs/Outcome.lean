import InjectionPlan.Proofs.Faultless
import InjectionPlan.Proofs.PlainPass
import InjectionPlan.Showcase.Shop

/-! # How a pass comes out

    A pass is aborted or completed.  It is aborted if the user's composition root,
    the first type of the host's root name that is not an interface, cannot be
    extended; the plan then tells this and nothing else (`planBy_eq_abortedPlan`).  In a
    completed pass nothing in the report is fatal (`not_isFatal_of_completed`).

    Only the first type of the root name counts (`userRoot?_eq_some_iff`): if it can be
    extended, a later one that cannot be does no harm.
-/

namespace InjectionPlan

variable {s : Snapshot} {d : Declaration} {settings : Settings} {sched : Schedule}

/-! ### Diagnostics of a block -/

/-- What can be said of a hook. -/
def Finding.aboutHooks : List Finding :=
  [.hookNotAccessible, .hookNotStatic, .hookParameterCount, .hookParameterType, .sourceNotRoot]

/-- Each structural rule is checked once, in the order of the rules. -/
theorem Method.hookFaults_sublist (m : Method) (h : Host) (kind : HookKind) :
    (m.hookFaults h kind).Sublist ([.hookNotAccessible] ++ [.hookNotStatic] ++
      [.hookParameterCount] ++ [.hookParameterType]) := by
  unfold hookFaults
  refine ((List.Sublist.append ?_ ?_).append ?_).append ?_ <;> split <;> simp

theorem Settlement.finding_mem_aboutHooks {h : Host} {m : Method} {kind : HookKind} :
    ∀ e ∈ (of h s d (d.hookCall h m kind)).diagnostics, e.finding ∈ Finding.aboutHooks := by
  intro e he
  unfold of at he
  split at he
  · obtain ⟨f, hf, rfl⟩ := List.mem_map.1 he
    have hrule := (m.hookFaults_sublist h kind).subset hf
    exact List.mem_append_left [.sourceNotRoot] hrule
  · -- of a hook without faults only a source can be dropped
    cases kind with
    | staticCall => cases he
    | compositionSource =>
      by_cases hcomposed : d.isComposedBy h s = true
      · simp [Declaration.hookCall, hcomposed, accepted] at he
      · simp only [Declaration.hookCall, hcomposed, dropped] at he
        obtain rfl := List.mem_singleton.1 he
        show Finding.sourceNotRoot ∈ Finding.aboutHooks
        decide

theorem Declaration.finding_of_ambiguity? {h : Host} {e : Diagnostic}
    (he : d.ambiguity? h = some e) : e.finding = .ambiguousContract := by
  unfold ambiguity? at he
  split at he
  · split at he
    · cases he
      rfl
    · cases he
  · cases he

/-- A block warns of a contract that was chosen, if it is to, and else tells of hooks only. -/
theorem Block.mem_diagnostics_full {e : Diagnostic} (he : e ∈ (full settings s d).diagnostics) :
    (settings.warnsOnAmbiguity = true ∧ d.ambiguity? settings.host = some e) ∨
      e.finding ∈ Finding.aboutHooks := by
  rcases List.mem_append.1 he with he | he
  · by_cases hw : settings.warnsOnAmbiguity = true
    · rw [if_pos hw] at he
      exact .inl ⟨hw, Option.mem_toList.1 he⟩
    · rw [if_neg hw] at he
      cases he
  · obtain ⟨settlement, hs, he⟩ := List.mem_flatMap.1 he
    obtain ⟨c, hc, rfl⟩ := List.mem_map.1 hs
    obtain ⟨m, -, hm⟩ := List.mem_filterMap.1 hc
    obtain ⟨k, -, rfl⟩ := Option.map_eq_some_iff.1 hm
    exact .inr (Settlement.finding_mem_aboutHooks e he)

/-- The block of a type ends no pass. -/
theorem Block.not_isFatal :
    ∀ e ∈ (of settings s d).diagnostics, e.finding.isFatal = false := by
  intro e he
  rw [diagnostics_of] at he
  rcases mem_diagnostics_full he with ⟨-, hwarning⟩ | hhook
  · rw [Declaration.finding_of_ambiguity? hwarning]
    rfl
  · have harmless : ∀ f ∈ Finding.aboutHooks, f.isFatal = false := by decide
    exact harmless _ hhook

/-- The blocks of a pass are those of the declared types. -/
theorem Resolution.mem_blocks_iff {b : Block} :
    b ∈ blocks sched settings s ↔ ∃ d ∈ s.types, Block.of settings s d = b := by
  rw [blocks_eq_map, List.mem_map]

/-! ### Aborted and completed passes -/

/-- A pass is aborted at a root that cannot be extended, or completed. -/
theorem Resolution.of_cases (sched : Schedule) (settings : Settings) (s : Snapshot) :
    (∃ root, s.userRoot? settings.host = some root ∧ root.isPartial = false ∧
      of sched settings s = aborted root) ∨
    ((∀ root, s.userRoot? settings.host = some root → root.isPartial = true) ∧
      of sched settings s =
        completed (blocks sched settings s) (Expansion.all settings.host s)) := by
  unfold of
  cases hroot : (s.userRoot? settings.host).filter (!·.isPartial) with
  | some root =>
    obtain ⟨hfound, hpartial⟩ := Option.filter_eq_some_iff.1 hroot
    exact .inl ⟨root, hfound, by simpa using hpartial, rfl⟩
  | none =>
    refine .inr ⟨?_, rfl⟩
    intro root hfound
    have hpartial := Option.filter_eq_none_iff.1 hroot root hfound
    simpa using hpartial

/-- A completed pass reports nothing fatal. -/
theorem Resolution.not_isFatal_of_completed (expansions : List Expansion) :
    ∀ e ∈ (completed (blocks sched settings s) expansions).diagnostics,
      e.finding.isFatal = false := by
  intro e he
  obtain ⟨b, hb, he⟩ := List.mem_flatMap.1 he
  obtain ⟨d, -, rfl⟩ := mem_blocks_iff.1 hb
  exact Block.not_isFatal e he

/-- The pass is aborted exactly if there is a root and it cannot be extended. -/
theorem Settings.isAborted_planBy_iff :
    (settings.planBy sched s).isAborted = true ↔
      ∃ root, s.userRoot? settings.host = some root ∧ root.isPartial = false := by
  unfold planBy
  rcases Resolution.of_cases sched settings s with ⟨root, hroot, hpartial, heq⟩ | ⟨hpartial, heq⟩
  · rw [heq]
    exact ⟨fun _ => ⟨root, hroot, hpartial⟩, fun _ => rfl⟩
  · rw [heq]
    constructor
    · intro haborted
      obtain ⟨e, he, hfatal⟩ := List.any_eq_true.1 haborted
      have hharmless := Resolution.not_isFatal_of_completed (Expansion.all settings.host s) e he
      rw [hharmless] at hfatal
      cases hfatal
    · rintro ⟨root, hroot, hnot⟩
      rw [hpartial root hroot] at hnot
      cases hnot

theorem Settings.isAborted_of_no_root (hroot : s.userRoot? settings.host = none) :
    (settings.planBy sched s).isAborted = false := by
  rw [← Bool.not_eq_true, isAborted_planBy_iff]
  rintro ⟨root, hfound, -⟩
  rw [hroot] at hfound
  cases hfound

/-- A pass that is aborted is aborted at a root. -/
theorem Resolution.of_eq_aborted (haborted : (settings.planBy sched s).isAborted = true) :
    ∃ root, s.userRoot? settings.host = some root ∧ root.isPartial = false ∧
      of sched settings s = aborted root := by
  rcases of_cases sched settings s with hroot | ⟨hpartial, -⟩
  · exact hroot
  · obtain ⟨root, hroot, hnot⟩ := Settings.isAborted_planBy_iff.1 haborted
    rw [hpartial root hroot] at hnot
    cases hnot

/-- A pass that is not aborted is completed. -/
theorem Resolution.of_eq_completed (hpass : (settings.planBy sched s).isAborted = false) :
    of sched settings s = completed (blocks sched settings s) (Expansion.all settings.host s) := by
  rcases of_cases sched settings s with ⟨root, hroot, hpartial, -⟩ | ⟨-, heq⟩
  · have haborted : (settings.planBy sched s).isAborted = true :=
      Settings.isAborted_planBy_iff.2 ⟨root, hroot, hpartial⟩
    rw [hpass] at haborted
    cases haborted
  · exact heq

/-- A pass that is not aborted comes to the full blocks of its types and the expansions of
its rules. -/
theorem Settings.planBy_of_not_isAborted (hpass : (settings.planBy sched s).isAborted = false) :
    (settings.planBy sched s).instructions =
        (s.types.flatMap fun d => (Block.full settings s d).instructions) ++
          ((Expansion.all settings.host s).flatMap (·.registrations)).map .register ∧
      (settings.planBy sched s).report.records =
        s.types.flatMap fun d => (Block.full settings s d).diagnostics := by
  rw [planBy, Resolution.plan, Resolution.of_eq_completed hpass, Resolution.blocks_eq_map]
  constructor
  · simp only [Resolution.instructions, List.flatMap_map, Block.instructions_of]
  · simp only [Resolution.diagnostics, List.flatMap_map, Block.diagnostics_of]

/-! ### Registrations of a plan -/

/-- Of the instructions of a block, those of the register markers are registrations. -/
theorem Block.registrations_of :
    (of settings s d).instructions.filterMap Instruction.registration? =
      d.registrations settings.host := by
  rw [instructions_of]
  simp [full, List.filterMap_append, Instruction.registration?, Function.comp_def]

/-- All rules of a module are expanded. -/
theorem Expansion.mem_all_iff {h : Host} {x : Expansion} :
    x ∈ all h s ↔ ∃ m ∈ s.rules, ofMarker h s m = x := by
  have hrules : (s.rules.filter (·.kind == .registerAll)) = s.rules := by
    rw [List.filter_eq_self]
    intro m hm
    simp [Snapshot.kind_of_mem_rules hm]
  rw [all, hrules, List.mem_map]

/-- The registrations of a completed pass. -/
theorem Resolution.mem_registrations_completed_iff {reg : Registration} :
    reg ∈ (completed (blocks sched settings s)
        (Expansion.all settings.host s)).instructions.filterMap Instruction.registration? ↔
      (∃ d ∈ s.types, reg ∈ d.registrations settings.host) ∨
        ∃ m ∈ s.rules, reg ∈ (Expansion.ofMarker settings.host s m).registrations := by
  have registered (regs : List Registration) :
      (regs.map Instruction.register).filterMap Instruction.registration? = regs := by
    simp [Instruction.registration?, Function.comp_def]
  rw [instructions, List.filterMap_append, registered, List.filterMap_flatMap, List.mem_append,
    List.mem_flatMap, List.mem_flatMap]
  constructor
  · rintro (⟨b, hb, hreg⟩ | ⟨x, hx, hreg⟩)
    · obtain ⟨d, hd, rfl⟩ := mem_blocks_iff.1 hb
      rw [Block.registrations_of] at hreg
      exact .inl ⟨d, hd, hreg⟩
    · obtain ⟨m, hm, rfl⟩ := Expansion.mem_all_iff.1 hx
      exact .inr ⟨m, hm, hreg⟩
  · rintro (⟨d, hd, hreg⟩ | ⟨m, hm, hreg⟩)
    · refine .inl ⟨_, mem_blocks_iff.2 ⟨d, hd, rfl⟩, ?_⟩
      rw [Block.registrations_of]
      exact hreg
    · exact .inr ⟨_, Expansion.mem_all_iff.2 ⟨m, hm, rfl⟩, hreg⟩

/-- A plan registers what the register markers and the bulk rules ask for, unless the
pass is aborted. -/
theorem Settings.mem_registrations_planBy_iff {reg : Registration} :
    reg ∈ (settings.planBy sched s).registrations ↔
      (settings.planBy sched s).isAborted = false ∧
        ((∃ d ∈ s.types, reg ∈ d.registrations settings.host) ∨
          ∃ m ∈ s.rules, reg ∈ (Expansion.ofMarker settings.host s m).registrations) := by
  cases hpass : (settings.planBy sched s).isAborted with
  | true =>
    obtain ⟨root, -, -, heq⟩ := Resolution.of_eq_aborted hpass
    have hnothing : (settings.planBy sched s).registrations = [] := by
      rw [planBy, heq]
      rfl
    rw [hnothing]
    simp
  | false =>
    have hregistrations : (settings.planBy sched s).registrations =
        (Resolution.completed (Resolution.blocks sched settings s)
          (Expansion.all settings.host s)).instructions.filterMap Instruction.registration? := by
      rw [planBy, Resolution.of_eq_completed hpass]
      rfl
    rw [hregistrations, Resolution.mem_registrations_completed_iff]
    simp

/-! ### Roots -/

/-- The root is the first type of the host's root name that is not an interface. -/
theorem Snapshot.userRoot?_eq_some_iff {h : Host} {root : Declaration} :
    s.userRoot? h = some root ↔
      ∃ n before after, h.rootName = some n ∧ s.types = before ++ root :: after ∧
        root.isInterface = false ∧ root.name = n ∧
        ∀ e ∈ before, e.isInterface = false → e.name ≠ n := by
  rw [userRoot?, Option.bind_eq_some_iff]
  constructor
  · rintro ⟨n, hn, hfind⟩
    obtain ⟨hroot, before, after, htypes, hbefore⟩ := List.find?_eq_some_iff_append.1 hfind
    obtain ⟨hkind, hname⟩ : root.isInterface = false ∧ root.name = n := by simpa using hroot
    refine ⟨n, before, after, hn, htypes, hkind, hname, ?_⟩
    intro e he hkind
    simpa [hkind] using hbefore e he
  · rintro ⟨n, before, after, hn, htypes, hkind, hname, hbefore⟩
    have hroot : (!root.isInterface && root.name == n) = true := by simp [hkind, hname]
    refine ⟨n, hn, List.find?_eq_some_iff_append.2 ⟨hroot, before, after, htypes, ?_⟩⟩
    intro e he
    by_cases hkind : e.isInterface = true
    · simp [hkind]
    · simpa [hkind] using hbefore e he (by simpa using hkind)

/-- The pass comes to nothing but the error of a root that cannot be extended exactly
if, of the types of the root name that are no interfaces, the first one cannot be. -/
theorem aborted_alone_iff (sched : Schedule) (settings : Settings) (s : Snapshot) :
    ((settings.planBy sched s).instructions = [] ∧
        ∃ e, (settings.planBy sched s).report.records = [e] ∧ e.finding = .rootNotPartial) ↔
      ∃ n before root after, settings.host.rootName = some n ∧
        s.types = before ++ root :: after ∧ root.isInterface = false ∧ root.name = n ∧
        (∀ e ∈ before, e.isInterface = false → e.name ≠ n) ∧ root.isPartial = false := by
  constructor
  · rintro ⟨-, e, hrecords, hfinding⟩
    -- the error is fatal, so the pass is aborted, and this needs a root
    have haborted : (settings.planBy sched s).isAborted = true := by
      rw [Plan.isAborted, Report.stopsPass, hrecords]
      simp [hfinding, Finding.isFatal]
    obtain ⟨root, hroot, hpartial⟩ := Settings.isAborted_planBy_iff.1 haborted
    obtain ⟨n, before, after, hn, htypes, hkind, hname, hbefore⟩ :=
      Snapshot.userRoot?_eq_some_iff.1 hroot
    exact ⟨n, before, root, after, hn, htypes, hkind, hname, hbefore, hpartial⟩
  · rintro ⟨n, before, root, after, hn, htypes, hkind, hname, hbefore, hpartial⟩
    have hroot : s.userRoot? settings.host = some root :=
      Snapshot.userRoot?_eq_some_iff.2 ⟨n, before, after, hn, htypes, hkind, hname, hbefore⟩
    rcases Resolution.of_cases sched settings s with ⟨root', hroot', -, heq⟩ | ⟨hnone, -⟩
    · rw [Settings.planBy, heq]
      exact ⟨rfl, Resolution.rootError root', rfl, rfl⟩
    · have hextended := hnone root hroot
      rw [hpartial] at hextended
      cases hextended

namespace TwoRoots

/-- Two types of the root name: the first can be extended, the second cannot. -/
def snapshot : Snapshot where
  name := "App"
  types :=
    [{ Showcase.cls "App" "CompositionRoot" with isPartial := true },
      { Showcase.cls "App" "CompositionRoot" with params := ["T"] }]
  rules := []
  faultless := by decide

end TwoRoots

/-- The second root does not abort the pass. -/
theorem TwoRoots.not_all_aborted :
    ¬ ∀ (sched : Schedule) (settings : Settings) (s : Snapshot) (n : String),
      settings.host.rootName = some n →
      (∃ root ∈ s.types, root.isInterface = false ∧ root.name = n ∧ root.isPartial = false) →
      (settings.planBy sched s).instructions = [] ∧
        ∃ e, (settings.planBy sched s).report.records = [e] ∧ e.finding = .rootNotPartial := by
  intro h
  have hroots : ∃ root ∈ snapshot.types, root.isInterface = false ∧
      root.name = "CompositionRoot" ∧ root.isPartial = false := by decide
  obtain ⟨-, e, hrecords, -⟩ :=
    h .inOrder (.forHost .lightInject) snapshot "CompositionRoot" rfl hroots
  have hnothing :
      ((Settings.forHost .lightInject).planBy .inOrder snapshot).report.records = [] := rfl
  rw [hnothing] at hrecords
  cases hrecords

/-! ### All or nothing -/

/-- Of the types of the host's root name that are no interfaces, the root is the first. -/
def Snapshot.FirstRoot (s : Snapshot) (h : Host) (root : Declaration) : Prop :=
  ∃ n before after, h.rootName = some n ∧ s.types = before ++ root :: after ∧
    root.isInterface = false ∧ root.name = n ∧ ∀ e ∈ before, e.isInterface = false → e.name ≠ n

/-- The plan of a pass that was aborted at a root: the error, and what is known without
looking at any other type. -/
def Snapshot.abortedPlan (s : Snapshot) (root : Declaration) : Plan where
  instructions := []
  ns := root.ns
  extendsRoot := true
  entryPoint := s.entryPoint
  report := ⟨[⟨.rootNotPartial, .error, root.name ++ " must be partial", .ofType root⟩]⟩

theorem Resolution.rootError_eq (root : Declaration) :
    rootError root = ⟨.rootNotPartial, .error, root.name ++ " must be partial", .ofType root⟩ := by
  have hmessage : (Finding.template .rootNotPartial).fill [root.name] =
      root.name ++ " must be partial" := by
    apply String.toList_inj.1
    rw [Text.Template.fill, String.toList_ofList, String.toList_append]
    rfl
  rw [rootError, Diagnostic.make, hmessage]
  rfl

/-- A pass that finds a root which cannot be extended comes to nothing but that. -/
theorem Settings.planBy_eq_abortedPlan {root : Declaration}
    (hroot : s.userRoot? settings.host = some root) (hpartial : root.isPartial = false) :
    settings.planBy sched s = s.abortedPlan root := by
  have haborted : (settings.planBy sched s).isAborted = true :=
    isAborted_planBy_iff.2 ⟨root, hroot, hpartial⟩
  obtain ⟨root', hroot', -, heq⟩ := Resolution.of_eq_aborted haborted
  obtain rfl : root = root' := by simpa [hroot] using hroot'
  have hns : s.planNamespace settings.host = root.ns := by
    rw [Snapshot.planNamespace, hroot]
    rfl
  rw [planBy, heq, Resolution.plan, hns, hroot, Resolution.diagnostics, Resolution.rootError_eq]
  rfl

/-- A pass is aborted exactly if there is a root and the first one cannot be extended.
Then the plan says so and nothing else, whatever the markers and rules ask for; else
nothing in its report is fatal. -/
theorem aborted_all_or_nothing (sched : Schedule) (settings : Settings) (s : Snapshot) :
    ((settings.planBy sched s).isAborted = true ↔
      ∃ root, s.FirstRoot settings.host root ∧ root.isPartial = false) ∧
    (∀ root, s.FirstRoot settings.host root → root.isPartial = false →
      settings.planBy sched s = s.abortedPlan root) ∧
    ((¬ ∃ root, s.FirstRoot settings.host root ∧ root.isPartial = false) →
      ∀ e ∈ (settings.planBy sched s).report.records, e.finding.isFatal = false) := by
  have hiff : (settings.planBy sched s).isAborted = true ↔
      ∃ root, s.FirstRoot settings.host root ∧ root.isPartial = false := by
    rw [Settings.isAborted_planBy_iff]
    apply exists_congr
    intro root
    exact and_congr_left fun _ => Snapshot.userRoot?_eq_some_iff
  refine ⟨hiff, ?_, ?_⟩
  · intro root hroot hpartial
    exact Settings.planBy_eq_abortedPlan (Snapshot.userRoot?_eq_some_iff.2 hroot) hpartial
  · intro hnone e he
    rw [← hiff, Bool.not_eq_true] at hnone
    have hharmless := List.any_eq_false.1 hnone e he
    simpa using hharmless

namespace LockedRoot

/-- A root that cannot be extended. -/
def root : Declaration := Showcase.cls "App.Wiring" "CompositionRoot"

/-- A module that asks for registrations, by a marker and by a rule, before and after
its root. -/
def snapshot : Snapshot where
  name := "App.Core"
  types :=
    [{ Showcase.cls "App" "Service" with markers := [.bare .register] },
      Showcase.blank "App" "CompositionRoot" .interfaceType,
      root,
      { Showcase.cls "App" "Handler" with
        interfaces := [.plain ⟨"App", "IHandler", .interfaceType⟩] }]
  rules := [.bulkByPosition (.plain ⟨"App", "IHandler", .interfaceType⟩)]
  faultless := by decide

end LockedRoot

/-- For a host with roots the pass is aborted, for one without roots it is not. -/
theorem LockedRoot.aborted_for_lightInject :
    snapshot.FirstRoot .lightInject root ∧ root.isPartial = false ∧
      (Settings.forHost .lightInject).planBy .inOrder snapshot =
        ⟨[], "App.Wiring", true, "AddAppCore",
          ⟨[⟨.rootNotPartial, .error, "CompositionRoot must be partial",
            ⟨"App.Wiring.CompositionRoot", none, none⟩⟩]⟩⟩ ∧
      (¬ ∃ root, snapshot.FirstRoot .microsoft root ∧ root.isPartial = false) ∧
      ∀ e ∈ ((Settings.forHost .microsoft).planBy .inOrder snapshot).report.records,
        e.finding.isFatal = false := by
  have hroot : snapshot.FirstRoot .lightInject root :=
    ⟨_, [_, _], [_], rfl, rfl, rfl, rfl, by decide⟩
  have hnone : ¬ ∃ root, snapshot.FirstRoot .microsoft root ∧ root.isPartial = false := by
    rintro ⟨root, ⟨n, before, after, hname, -⟩, -⟩
    cases hname
  refine ⟨hroot, rfl, ?_, hnone, ?_⟩
  · rw [(aborted_all_or_nothing .inOrder (.forHost .lightInject) snapshot).2.1 root hroot rfl]
    decide
  · exact (aborted_all_or_nothing .inOrder (.forHost .microsoft) snapshot).2.2 hnone

end InjectionPlan
