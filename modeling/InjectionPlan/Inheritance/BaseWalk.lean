import InjectionPlan.Inheritance.Step

/-! # The bases of a type

    The bases of a type are its base, the base of that, and so on, each written
    over the type's own parameters.  The chain ends
    - at a declaration without a base,
    - after the first base that the module does not declare,
    - before a base whose definition is the type's own or occurs in the chain
      already.

    Each declared base uses up one declared key, so the chain is finite.
-/

namespace InjectionPlan

/-- The bases of a type. -/
structure BaseChain where
  /-- The bases, the nearest first. -/
  bases : List TypeExpr
  /-- The reference at which a cycle was stopped. -/
  cycle : Option TypeExpr
deriving Repr

namespace BaseChain

/-- The chain with one more base in front. -/
def cons (t : TypeExpr) (c : BaseChain) : BaseChain := { c with bases := t :: c.bases }

/-- The bases of the reference `t` to `d`, if the definitions with the keys `used`
lie behind it. -/
def above (s : Snapshot) (used : List String) (d : Declaration) (t : TypeExpr) : BaseChain :=
  match d.baseAt t with
  | none => ⟨[], none⟩
  | some b =>
    if _hu : b.familyName ∈ used then ⟨[], some b⟩
    else
      match _hf : s.find? b with
      | none => ⟨[b], none⟩
      | some e => cons b (above s (b.familyName :: used) e b)
termination_by s.unused used
decreasing_by exact Snapshot.unused_cons_lt (Snapshot.familyName_mem_keys _hf) _hu

/-- The bases of a declaration. -/
def run (s : Snapshot) (d : Declaration) : BaseChain := above s [d.key] d d.self

end BaseChain

namespace Snapshot

/-- All bases of a type, the nearest first. -/
def basesOf (s : Snapshot) (d : Declaration) : List TypeExpr := (BaseChain.run s d).bases

end Snapshot

end InjectionPlan
