import InjectionPlan.Snapshot

/-! # Inheritance steps

    A reference to a declared type inherits what the declaration writes down,
    with the declaration's parameters replaced by the reference's arguments.  A
    step goes from a reference to one of its interfaces or to its base; a chain
    is a finite run of steps.
-/

namespace InjectionPlan

namespace Declaration

/-- The arguments of a reference to the declaration, by parameter. -/
def bindingAt (d : Declaration) (t : TypeExpr) : Binding := Binding.of d.params t.args

/-- The interfaces that the reference `t` to the declaration inherits directly. -/
def interfacesAt (d : Declaration) (t : TypeExpr) : List TypeExpr :=
  d.interfaces.map (TypeExpr.substitute (d.bindingAt t))

/-- The base that the reference `t` to the declaration inherits. -/
def baseAt (d : Declaration) (t : TypeExpr) : Option TypeExpr :=
  d.base.map (TypeExpr.substitute (d.bindingAt t))

/-- All that the reference `t` to the declaration inherits directly: the
interfaces, then the base. -/
def inheritedAt (d : Declaration) (t : TypeExpr) : List TypeExpr :=
  d.interfacesAt t ++ (d.baseAt t).toList

/-- The number of interfaces and bases that the declaration writes down. -/
def inheritedCount (d : Declaration) : Nat := d.interfaces.length + d.base.toList.length

theorem length_inheritedAt (d : Declaration) (t : TypeExpr) :
    (d.inheritedAt t).length = d.inheritedCount := by
  cases h : d.base <;> simp [inheritedAt, interfacesAt, baseAt, inheritedCount, h]

end Declaration

/-- What a step leads to. -/
inductive StepKind
  /-- An interface that is written down. -/
  | toInterface
  /-- The base. -/
  | toBase
deriving DecidableEq, Repr

/-- One step of inheritance from a reference to a declared type. -/
inductive Step (s : Snapshot) : StepKind → TypeExpr → TypeExpr → Prop
  /-- To an interface of the declaration. -/
  | toInterface {t i : TypeExpr} {d : Declaration} :
    s.find? t = some d → i ∈ d.interfacesAt t → Step s .toInterface t i
  /-- To the base of the declaration. -/
  | toBase {t b : TypeExpr} {d : Declaration} :
    s.find? t = some d → d.baseAt t = some b → Step s .toBase t b

/-- A chain of steps from a reference.  `kinds` says what each step leads to and
`sources` lists the references that the steps start from. -/
inductive Chain (s : Snapshot) : TypeExpr → List StepKind → List TypeExpr → TypeExpr → Prop
  /-- No step. -/
  | none (t : TypeExpr) : Chain s t [] [] t
  /-- One step, then the rest of the chain. -/
  | step {t u v : TypeExpr} {k : StepKind} {ks : List StepKind} {ts : List TypeExpr} :
    Step s k t u → Chain s u ks ts v → Chain s t (k :: ks) (t :: ts) v

namespace Snapshot

/-- The number of declared keys that are not among `used`. -/
def unused (s : Snapshot) (used : List String) : Nat :=
  (s.keys.filter fun k => !used.contains k).length

/-- Using a declared key for the first time leaves fewer unused ones. -/
theorem unused_cons_lt {s : Snapshot} {used : List String} {k : String}
    (hk : k ∈ s.keys) (hu : k ∉ used) : s.unused (k :: used) < s.unused used := by
  have split : s.keys.filter (fun x => !(k :: used).contains x) =
      (s.keys.filter fun x => !used.contains x).filter fun x => x != k := by
    rw [List.filter_filter]
    apply List.filter_congr
    intro x _
    by_cases h : x = k <;> simp [h]
  rw [unused, unused, split, List.length_filter_lt_length_iff_exists]
  exact ⟨k, List.mem_filter.2 ⟨hk, by simpa using hu⟩, by simp⟩

end Snapshot

end InjectionPlan
