import InjectionPlan.Proofs.PlainPass
import InjectionPlan.Proofs.Skeleton
import InjectionPlan.Showcase.Shop
import Mathlib.Data.List.Perm.Basic
import Mathlib.Data.String.Basic

/-! # The order of declaration

    Two modules that differ in the order of their types only come to the same plan, up to
    the order of its instructions and of its report, unless several types compete for the
    composition root.

    A pass reads the list of types in four ways:
    - A reference finds its declaration by the key, and no two types share a key
      (`Reorders.find?_eq`).  The walks along inheritance read the types in no other way,
      so a type has the same interfaces, bases and block in both modules (`looksLike`).
    - The root is the only type that can be one (`Reorders.userRoot?_eq`).
    - The smallest namespace is the least one, wherever it stands.
    - Blocks and candidates are listed in the order of declaration.  This is where the
      order of the output comes from (`Reorders.completed`).
-/

namespace InjectionPlan

variable {s s' : Snapshot} {d : Declaration} {settings : Settings} {h : Host}

/-- The snapshots declare the same types, maybe in different orders, and agree in all else. -/
structure Snapshot.Reorders (s s' : Snapshot) : Prop where
  name : s.name = s'.name
  rules : s.rules = s'.rules
  types : s.types.Perm s'.types

/-! ### Finding -/

theorem Snapshot.Reorders.find?_eq (hr : s.Reorders s') (t : TypeExpr) :
    s.find? t = s'.find? t := by
  ext d
  rw [find?_eq_some_iff, find?_eq_some_iff, hr.types.mem_iff]

theorem Snapshot.Reorders.looksLike (hr : s.Reorders s') : s.LooksLike s' :=
  fun t => congrArg (Option.map Declaration.skeleton) (hr.find?_eq t)

/-! ### The root and the namespace -/

/-- An item that alone passes the test is found in any order of the items. -/
theorem find?_eq_of_perm {α : Type} {p : α → Bool} {xs ys : List α} (hperm : xs.Perm ys)
    (hone : xs.countP p ≤ 1) : xs.find? p = ys.find? p := by
  -- what passes the test is a list of at most one item, and that has one order only
  have hfiltered : (xs.filter p).Perm (ys.filter p) := hperm.filter p
  rw [List.countP_eq_length_filter] at hone
  have hsame : xs.filter p = ys.filter p := by
    cases hxs : xs.filter p with
    | nil =>
      rw [hxs] at hfiltered
      exact (List.nil_perm.1 hfiltered).symm
    | cons x rest =>
      rw [hxs, List.length_cons] at hone
      have hrest : rest = [] := List.eq_nil_of_length_eq_zero (by omega)
      rw [hxs, hrest] at hfiltered
      rw [hrest]
      exact (List.perm_singleton.1 hfiltered.symm).symm
  rw [← List.head?_filter, hsame, List.head?_filter]

/-- Whether the type is taken for the user's composition root, if it comes first. -/
def Declaration.canBeRoot (d : Declaration) (h : Host) : Bool :=
  !d.isInterface && h.rootName == some d.name

theorem Snapshot.userRoot?_eq_find? (s : Snapshot) (h : Host) :
    s.userRoot? h = s.types.find? (·.canBeRoot h) := by
  cases hname : h.rootName with
  | none =>
    have hnone : ∀ d ∈ s.types, ¬ d.canBeRoot h = true := by simp [Declaration.canBeRoot, hname]
    rw [userRoot?, hname, List.find?_eq_none.2 hnone]
    rfl
  | some n =>
    have htest : (fun d : Declaration => d.canBeRoot h) =
        fun d => !d.isInterface && d.name == n := by
      funext d
      rw [Declaration.canBeRoot, hname, Option.some_beq_some, Bool.beq_comm]
    rw [userRoot?, hname, htest]
    rfl

theorem Snapshot.Reorders.userRoot?_eq (hr : s.Reorders s')
    (hroot : s.types.countP (·.canBeRoot h) ≤ 1) : s.userRoot? h = s'.userRoot? h := by
  rw [userRoot?_eq_find?, userRoot?_eq_find?]
  exact find?_eq_of_perm hr.types hroot

/-- The smallest namespace is the least one that is not empty. -/
theorem Snapshot.smallestNamespace?_eq_some_iff {n : String} :
    s.smallestNamespace? = some n ↔
      n ∈ (s.types.map Declaration.ns).filter (!·.isEmpty) ∧
        ∀ m ∈ (s.types.map Declaration.ns).filter (!·.isEmpty), n ≤ m := by
  have hsmaller : smaller = (min : String → String → String) := by
    funext a b
    rw [smaller, min_comm, min_def_lt]
  have hmin : s.smallestNamespace? = ((s.types.map Declaration.ns).filter (!·.isEmpty)).min? := by
    rw [smallestNamespace?, hsmaller]
    cases (s.types.map Declaration.ns).filter (!·.isEmpty) <;> rfl
  rw [hmin, List.min?_eq_some_iff]

theorem Snapshot.Reorders.smallestNamespace?_eq (hr : s.Reorders s') :
    s.smallestNamespace? = s'.smallestNamespace? := by
  have hmem (m : String) : m ∈ (s.types.map Declaration.ns).filter (!·.isEmpty) ↔
      m ∈ (s'.types.map Declaration.ns).filter (!·.isEmpty) :=
    ((hr.types.map _).filter _).mem_iff
  ext n
  simp only [smallestNamespace?_eq_some_iff, hmem]

/-! ### The output -/

/-- A marker registers the same types, in the order in which they are declared. -/
theorem Snapshot.Reorders.bulkRegistrations (hr : s.Reorders s') (m : Marker) :
    (Expansion.ofMarker h s m).registrations.Perm (Expansion.ofMarker h s' m).registrations := by
  unfold Expansion.ofMarker
  cases Rule.ofMarker? m with
  | none => exact .refl _
  | some r =>
    have hcandidates : (r.candidates s).Perm (r.candidates s') := hr.types.filter _
    exact hcandidates.flatMap fun d _ => .of_eq (r.registrationsOf_congr hr.looksLike)

/-- A completed pass comes to the same instructions and diagnostics, in another order. -/
theorem Snapshot.Reorders.completed (hr : s.Reorders s') (sched sched' : Schedule) :
    let r := Resolution.completed (Resolution.blocks sched settings s)
      (Expansion.all settings.host s)
    let r' := Resolution.completed (Resolution.blocks sched' settings s')
      (Expansion.all settings.host s')
    r.instructions.Perm r'.instructions ∧ r.diagnostics.Perm r'.diagnostics := by
  intro r r'
  have hblocks : (Resolution.blocks sched settings s).Perm
      (Resolution.blocks sched' settings s') := by
    have hsame : Block.of settings s = Block.of settings s' := by
      funext d
      exact Block.of_congr hr.looksLike
    rw [Resolution.blocks_eq_map, Resolution.blocks_eq_map, hsame]
    exact hr.types.map _
  have hexpansions : ((Expansion.all settings.host s).flatMap (·.registrations)).Perm
      ((Expansion.all settings.host s').flatMap (·.registrations)) := by
    rw [Expansion.all, Expansion.all, hr.rules, List.flatMap_map, List.flatMap_map]
    exact .flatMap_left _ fun m _ => hr.bulkRegistrations m
  exact ⟨(hblocks.flatMap_right _).append (hexpansions.map _), hblocks.flatMap_right _⟩

/-- The plans differ at most in the order of their instructions and of their reports. -/
structure Plan.Reorders (p p' : Plan) : Prop where
  ns : p.ns = p'.ns
  extendsRoot : p.extendsRoot = p'.extendsRoot
  entryPoint : p.entryPoint = p'.entryPoint
  isAborted : p.isAborted = p'.isAborted
  instructions : p.instructions.Perm p'.instructions
  records : p.report.records.Perm p'.report.records

/-- If at most one type can be the root, the order of declaration decides on nothing but
the order of what a plan lists. -/
theorem planBy_of_reorders (sched sched' : Schedule) (hr : s.Reorders s')
    (hroot : s.types.countP (·.canBeRoot settings.host) ≤ 1) :
    (settings.planBy sched s).Reorders (settings.planBy sched' s') := by
  have hsame : s.userRoot? settings.host = s'.userRoot? settings.host := hr.userRoot?_eq hroot
  -- both passes are aborted at the same root, or both are completed
  have hlists : (settings.planBy sched s).instructions.Perm
        (settings.planBy sched' s').instructions ∧
      (settings.planBy sched s).report.records.Perm
        (settings.planBy sched' s').report.records := by
    simp only [Settings.planBy, Resolution.plan, Resolution.of, ← hsame]
    cases (s.userRoot? settings.host).filter (!·.isPartial) with
    | some root => exact ⟨.refl _, .refl _⟩
    | none => exact hr.completed sched sched'
  exact {
    ns := by
      simp only [Settings.planBy, Resolution.plan, Snapshot.planNamespace, ← hsame,
        hr.smallestNamespace?_eq, hr.name]
    extendsRoot := by simp only [Settings.planBy, Resolution.plan, ← hsame]
    entryPoint := by simp only [Settings.planBy, Resolution.plan, Snapshot.entryPoint, hr.name]
    isAborted := hlists.2.any_eq
    instructions := hlists.1
    records := hlists.2 }

namespace Shuffled

/-- The contract of a handler. -/
def handler : TypeExpr := .plain (Showcase.interfaceRef "App" "IHandler")

/-- A root, a clock in a smaller namespace, and two handlers.  One handler is marked too and
has its contract chosen among two. -/
def types : List Declaration :=
  [{ Showcase.cls "App.Wiring" "CompositionRoot" with isPartial := true },
    { Showcase.cls "App" "Clock" with markers := [.bare .register] },
    { Showcase.cls "App" "OrderHandler" with
      interfaces := [handler, .plain (Showcase.interfaceRef "App" "IAudit")]
      markers := [.bare .register] },
    { Showcase.cls "App" "RefundHandler" with interfaces := [handler] }]

/-- The types in order. -/
def forwards : Snapshot where
  name := "App"
  types := types
  rules := [.bulkByPosition handler]
  faultless := by decide

/-- The types in reverse order. -/
def backwards : Snapshot where
  name := "App"
  types := types.reverse
  rules := [.bulkByPosition handler]
  faultless := by decide

end Shuffled

/-- Reversing the types of a module reorders its plan. -/
theorem Shuffled.plans_reorder :
    forwards.Reorders backwards ∧
      forwards.types.countP (·.canBeRoot Showcase.settings.host) ≤ 1 ∧
      (Showcase.settings.planBy .inOrder forwards).Reorders
        (Showcase.settings.planBy .inOrder backwards) := by
  have hreorders : forwards.Reorders backwards := ⟨rfl, rfl, (List.reverse_perm types).symm⟩
  have hroot : forwards.types.countP (·.canBeRoot Showcase.settings.host) ≤ 1 := by decide
  exact ⟨hreorders, hroot, planBy_of_reorders .inOrder .inOrder hreorders hroot⟩

end InjectionPlan
