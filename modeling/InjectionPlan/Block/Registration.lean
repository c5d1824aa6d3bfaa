import InjectionPlan.Contract
import InjectionPlan.Log.Event

/-! # Registrations of a marked type

    Every register marker on a type gives one registration: the type for its
    contract.  If the contract is the type itself, the contract's own form is
    registered.

    A marker that names no contract takes the first of several interfaces; the
    user can be warned of that.
-/

namespace InjectionPlan

/-- What is told of a registration. -/
def Registration.event (r : Registration) : Event :=
  .registrationResolved r.implementation r.service r.lifetime

namespace Declaration

/-- The registration that a register marker on the type asks for. -/
def registrationFor (d : Declaration) (h : Host) (m : Marker) : Registration :=
  let c := Contract.infer h d m
  Registration.make (some c.name) (if d.isSelf c.type then c.name else d.qualifiedName)
    m.lifetime m.serviceName?

/-- The registrations that the type asks for, in the order of the markers. -/
def registrations (d : Declaration) (h : Host) : List Registration :=
  (d.markersOf .register).map (d.registrationFor h)

/-- Whether some register marker on the type names no contract. -/
def hasImpliedContract (d : Declaration) : Bool :=
  (d.markersOf .register).any (·.contract?.isNone)

/-- The warning that a contract was chosen among several interfaces, if one was. -/
def ambiguity? (d : Declaration) (h : Host) : Option Diagnostic :=
  if d.hasImpliedContract then
    match d.contractInterfaces h with
    | i :: j :: rest =>
      some (.make .ambiguousContract (.ofType d)
        [d.qualifiedName, toString (i :: j :: rest).length, i.displayName d.ns])
    | _ => none
  else none

end Declaration

end InjectionPlan
