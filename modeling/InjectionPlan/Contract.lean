import InjectionPlan.Declaration
import InjectionPlan.Host

/-! # Contracts

    The contract of a marked type is the type that other code will depend on.
    Four rules are tried in turn:
    - the contract that the marker names;
    - the first interface that is written down, the equality interface aside;
    - the base, unless it is the root of all classes;
    - the type itself.
-/

namespace InjectionPlan

/-- The rule that gave a contract. -/
inductive ContractOrigin
  /-- The marker names it. -/
  | marker
  /-- It is the first interface. -/
  | interface
  /-- It is the base. -/
  | base
  /-- It is the type itself. -/
  | self
deriving DecidableEq, Repr

/-- A contract and the name it is registered under. -/
structure Contract where
  /-- The contract. -/
  type : TypeExpr
  /-- Its display name, seen from the marked type. -/
  name : String
  /-- The rule that gave it. -/
  origin : ContractOrigin
deriving Repr

/-- The interfaces written down on the type that may be its contract. -/
def Declaration.contractInterfaces (d : Declaration) (h : Host) : List TypeExpr :=
  d.interfaces.filter fun i => !h.isEqualityContract i

/-- The base of the type, if it may be its contract. -/
def Declaration.contractBase? (d : Declaration) (h : Host) : Option TypeExpr :=
  d.base.filter fun b => !h.isRootObject b

namespace Contract

/-- A contract seen from the type `d`. -/
def seenFrom (d : Declaration) (t : TypeExpr) (origin : ContractOrigin) : Contract :=
  ⟨t, t.displayName d.ns, origin⟩

/-- The contract that is used when the marker names none. -/
def implied (h : Host) (d : Declaration) : Contract :=
  match (d.contractInterfaces h).head? with
  | some i => seenFrom d i .interface
  | none =>
    match d.contractBase? h with
    | some b => seenFrom d b .base
    | none => ⟨d.self, d.qualifiedName, .self⟩

/-- The contract of a marked type. -/
def infer (h : Host) (d : Declaration) (m : Marker) : Contract :=
  match m.contract? with
  | some t => seenFrom d t .marker
  | none => implied h d

end Contract

/-- Whether a contract is the type itself: by display name or, if both are
generic, by the name that all their forms share. -/
def Declaration.isSelf (d : Declaration) (t : TypeExpr) : Bool :=
  d.qualifiedName == t.displayName d.ns ||
    (d.isGeneric && t.isGeneric && d.key == t.familyName)

end InjectionPlan
