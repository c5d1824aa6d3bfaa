import InjectionPlan.Contract
import InjectionPlan.Log.Event

/-! # Decoration of a contract by a marked type

    The first decorate marker on a type makes it the decorator of its contract.
    A type that would decorate itself gives no decoration.
-/

namespace InjectionPlan

namespace Declaration

/-- The contract that the type is marked to decorate, be it the type itself. -/
def decorated? (d : Declaration) (h : Host) : Option Contract :=
  (d.markersOf .decorate).head?.map (Contract.infer h d)

/-- The decoration that the type asks for. -/
def decoration? (d : Declaration) (h : Host) : Option Decoration :=
  match d.decorated? h with
  | some c => if d.isSelf c.type then none else some ⟨c.name, d.qualifiedName⟩
  | none => none

/-- What is told of the decoration: only that it is skipped. -/
def decorationEvents (d : Declaration) (h : Host) : List Event :=
  match d.decorated? h with
  | some c => if d.isSelf c.type then [.decorationSkipped d.qualifiedName] else []
  | none => []

end Declaration

end InjectionPlan
