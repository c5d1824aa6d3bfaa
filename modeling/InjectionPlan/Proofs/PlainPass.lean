import InjectionPlan.Plan
import Mathlib.Data.List.Nodup

/-! # The plain pass

    A pass is made fast in two ways: several workers share the types, and a type
    without markers is passed over.  The plain pass does neither.  It makes the full
    block of every declared type, one after another, and then expands the bulk rules
    (`Settings.plainPlan`, which lists what they add in this order).

    Both make no difference to the plan:
    - `Schedule.collect_arrange`: in whatever order the blocks arrive, sorting by
      position puts them back into the order of declaration;
    - `Block.instructions_of` and `Block.diagnostics_of`: the full block of a type
      without markers holds no instruction and no diagnostic.
-/

namespace InjectionPlan

variable {s : Snapshot} {d : Declaration} {settings : Settings} {h : Host}

/-! ### Several workers -/

/-- Blocks that were sent off by position are collected in the order of the positions, in
whatever order they arrive. -/
theorem Schedule.collect_arrange (sched : Schedule) {xs : List (Nat × Block)}
    (hxs : xs.Pairwise fun a b => a.1 < b.1) : collect (sched.arrange xs) = xs.map (·.2) := by
  have hperm : ((sched.arrange xs).mergeSort fun a b => a.1 ≤ b.1).Perm xs :=
    (List.mergeSort_perm _ _).trans (sched.arrange_perm xs)
  have hsorted : ((sched.arrange xs).mergeSort fun a b => a.1 ≤ b.1).Pairwise
      fun a b => a.1 ≤ b.1 := by
    have htrans (a b c : Nat × Block) (hab : decide (a.1 ≤ b.1) = true)
        (hbc : decide (b.1 ≤ c.1) = true) : decide (a.1 ≤ c.1) = true := by
      simp only [decide_eq_true_eq] at *
      omega
    have htotal (a b : Nat × Block) : (decide (a.1 ≤ b.1) || decide (b.1 ≤ a.1)) = true := by
      simp only [Bool.or_eq_true, decide_eq_true_eq]
      omega
    have hmerge := List.pairwise_mergeSort htrans htotal (sched.arrange xs)
    exact hmerge.imp fun hab => of_decide_eq_true hab
  have hpositions : (xs.map (·.1)).Nodup := by
    rw [List.Nodup, List.pairwise_map]
    exact hxs.imp fun hab => Nat.ne_of_lt hab
  -- no two blocks have one position, so there is one way only to sort them
  have hsame : (sched.arrange xs).mergeSort (fun a b => a.1 ≤ b.1) = xs := by
    refine hperm.eq_of_pairwise ?_ hsorted (hxs.imp fun hab => Nat.le_of_lt hab)
    intro a b ha hb hab hba
    have ha' : a ∈ xs := hperm.mem_iff.1 ha
    exact List.inj_on_of_nodup_map hpositions ha' hb (Nat.le_antisymm hab hba)
  rw [collect, hsame]

theorem Schedule.blocks_eq_map (sched : Schedule) (settings : Settings) (s : Snapshot) :
    sched.blocks settings s = s.types.map (Block.of settings s) := by
  have hpositions : (s.types.mapIdx fun i d => (i, Block.of settings s d)).Pairwise
      fun a b => a.1 < b.1 := by
    rw [List.pairwise_iff_getElem]
    intro i j hi hj hij
    rw [List.getElem_mapIdx, List.getElem_mapIdx]
    exact hij
  rw [Schedule.blocks, sched.collect_arrange hpositions]
  apply List.ext_getElem?
  intro i
  simp [Function.comp_def]

/-- However the work is spread, each declared type gives its block, in the order of
declaration. -/
theorem Resolution.blocks_eq_map (sched : Schedule) (settings : Settings) (s : Snapshot) :
    blocks sched settings s = s.types.map (Block.of settings s) := by
  unfold blocks
  by_cases hp : settings.parallel = true
  · rw [if_pos hp, sched.blocks_eq_map]
  · rw [if_neg hp]

/-! ### Types without markers -/

namespace Declaration

theorem isUnmarked_iff :
    d.isUnmarked = true ↔ d.markers = [] ∧ ∀ m ∈ d.methods, m.markers = [] := by
  simp [isUnmarked]

theorem markersOf_of_isUnmarked (hd : d.isUnmarked = true) (kind : MarkerKind) :
    d.markersOf kind = [] := by
  rw [markersOf, (isUnmarked_iff.1 hd).1]
  rfl

theorem registrations_of_isUnmarked (hd : d.isUnmarked = true) : d.registrations h = [] := by
  rw [registrations, markersOf_of_isUnmarked hd]
  rfl

theorem ambiguity?_of_isUnmarked (hd : d.isUnmarked = true) : d.ambiguity? h = none := by
  have himplied : d.hasImpliedContract = false := by
    rw [hasImpliedContract, markersOf_of_isUnmarked hd]
    rfl
  rw [ambiguity?, himplied]
  rfl

theorem decoration?_of_isUnmarked (hd : d.isUnmarked = true) : d.decoration? h = none := by
  have hnothing : d.decorated? h = none := by
    rw [decorated?, markersOf_of_isUnmarked hd]
    rfl
  rw [decoration?, hnothing]

theorem hookCalls_of_isUnmarked (hd : d.isUnmarked = true) : d.hookCalls h = [] := by
  rw [hookCalls, List.filterMap_eq_nil_iff]
  intro m hm
  have hmarker : m.marker? .registrationExtension = none := by
    rw [Method.marker?, (isUnmarked_iff.1 hd).2 m hm]
    rfl
  rw [hookCall?, hmarker]
  rfl

end Declaration

namespace Block

/-- No resolver has anything to say of a type without markers. -/
theorem full_of_isUnmarked (hd : d.isUnmarked = true) :
    (full settings s d).instructions = [] ∧ (full settings s d).diagnostics = [] := by
  simp [full, d.registrations_of_isUnmarked hd, d.decoration?_of_isUnmarked hd,
    d.hookCalls_of_isUnmarked hd, d.ambiguity?_of_isUnmarked hd]

/-- Passing over types without markers drops no instruction. -/
theorem instructions_of (settings : Settings) (s : Snapshot) (d : Declaration) :
    (of settings s d).instructions = (full settings s d).instructions := by
  by_cases hd : d.isUnmarked = true
  · rw [of, if_pos hd, (full_of_isUnmarked hd).1]
    rfl
  · rw [of, if_neg hd]

/-- Passing over types without markers drops no diagnostic. -/
theorem diagnostics_of (settings : Settings) (s : Snapshot) (d : Declaration) :
    (of settings s d).diagnostics = (full settings s d).diagnostics := by
  by_cases hd : d.isUnmarked = true
  · rw [of, if_pos hd, (full_of_isUnmarked hd).2]
    rfl
  · rw [of, if_neg hd]

end Block

/-! ### The plain pass -/

namespace Settings

/-- The plan of the plain pass.  One worker makes the full block of each declared type, in
the order of declaration, and then expands each bulk rule, in the order of the rules.  If
the user's root cannot be extended, nothing is made and the plan says so. -/
def plainPlan (settings : Settings) (s : Snapshot) : Plan :=
  match (s.userRoot? settings.host).filter (!·.isPartial) with
  | some root =>
    { instructions := []
      ns := s.planNamespace settings.host
      extendsRoot := true
      entryPoint := s.entryPoint
      report := ⟨[.make .rootNotPartial (.ofType root) [root.name]]⟩ }
  | none =>
    { instructions :=
        (s.types.flatMap fun d => (Block.full settings s d).instructions) ++
          (s.rules.filter (·.kind == .registerAll)).flatMap fun m =>
            (Expansion.ofMarker settings.host s m).registrations.map .register
      ns := s.planNamespace settings.host
      extendsRoot := (s.userRoot? settings.host).isSome
      entryPoint := s.entryPoint
      report := ⟨s.types.flatMap fun d => (Block.full settings s d).diagnostics⟩ }

/-- A pass comes to the plan of the plain one. -/
theorem planBy_eq (sched : Schedule) (settings : Settings) (s : Snapshot) :
    settings.planBy sched s = settings.plainPlan s := by
  cases hroot : (s.userRoot? settings.host).filter (!·.isPartial) with
  | some root =>
    have hof : Resolution.of sched settings s = .aborted root := by rw [Resolution.of, hroot]
    have huser : s.userRoot? settings.host = some root := (Option.filter_eq_some_iff.1 hroot).1
    have hextends : (s.userRoot? settings.host).isSome = true := by
      rw [huser, Option.isSome_some]
    rw [planBy, hof, Resolution.plan, hextends, plainPlan, hroot]
    rfl
  | none =>
    have hof : Resolution.of sched settings s =
        .completed (s.types.map (Block.of settings s)) (Expansion.all settings.host s) := by
      rw [Resolution.of, hroot, Resolution.blocks_eq_map]
    -- the blocks that are passed over hold nothing
    have hinstructions : (Resolution.of sched settings s).instructions =
        (s.types.flatMap fun d => (Block.full settings s d).instructions) ++
          (s.rules.filter (·.kind == .registerAll)).flatMap fun m =>
            (Expansion.ofMarker settings.host s m).registrations.map .register := by
      simp only [hof, Resolution.instructions, Expansion.all, List.flatMap_map, List.map_flatMap,
        Block.instructions_of]
    have hdiagnostics : (Resolution.of sched settings s).diagnostics =
        s.types.flatMap fun d => (Block.full settings s d).diagnostics := by
      simp only [hof, Resolution.diagnostics, List.flatMap_map, Block.diagnostics_of]
    rw [planBy, Resolution.plan, hinstructions, hdiagnostics, plainPlan, hroot]

end Settings

/-- With several workers, in whatever order they finish, and with one worker alike, a pass
comes to the plan of the plain pass. -/
theorem planBy_eq_plainPlan (sched : Schedule) (settings : Settings) (s : Snapshot) :
    { settings with parallel := true }.planBy sched s = settings.plainPlan s ∧
      { settings with parallel := false }.planBy sched s = settings.plainPlan s := by
  have either (b : Bool) :
      { settings with parallel := b }.planBy sched s = settings.plainPlan s := by
    -- the plain pass does not ask how many workers there are
    rw [Settings.planBy_eq sched { settings with parallel := b } s]
    rfl
  exact ⟨either true, either false⟩

end InjectionPlan
