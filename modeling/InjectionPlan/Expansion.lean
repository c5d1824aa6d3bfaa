import InjectionPlan.Block.Hook
import InjectionPlan.Inheritance.BaseWalk

/-! # Expansion of bulk rules

    A bulk rule names a contract and registers every concrete type of the module
    that implements it.
    - A closed contract is matched by the inherited interface of its qualified
      name.
    - An open contract is matched by every inherited form of its definition, each
      of which gives a registration of its own.
    - If no interface matches and the contract is not an interface, the bases of
      the candidate are searched in the same way, and the nearest match counts.

    A generic candidate is registered open, for the open contract, and only if it
    inherits the contract over exactly its own parameters.
-/

namespace InjectionPlan

namespace TypeExpr

/-- Whether an inherited reference is a match for the contract. -/
def covers (contract t : TypeExpr) : Bool :=
  if contract.isOpen then t.isGeneric && t.familyName == contract.familyName
  else t.qualifiedName == contract.qualifiedName

end TypeExpr

namespace Declaration

/-- Whether the reference is applied to exactly the type's own parameters. -/
def forwards (d : Declaration) (t : TypeExpr) : Bool :=
  t.args.length == d.params.length &&
    (t.args.zip d.params).all fun (a, p) => a.isParameter && a.name == p

/-- The names of the contract and of the implementation when the type is
registered for the inherited reference `t`. -/
def pairing (d : Declaration) (t : TypeExpr) : String × String :=
  if d.self.isOpen then (t.familyName, d.key) else (t.displayName d.ns, d.qualifiedName)

/-- Whether the type can be registered for the inherited reference `t`. -/
def canServe (d : Declaration) (t : TypeExpr) : Bool := !d.self.isOpen || d.forwards t

end Declaration

namespace BaseChain

/-- What is told of the base walk of a type. -/
def events (d : Declaration) (c : BaseChain) : List Event :=
  c.cycle.toList.map fun t => .cycleStopped d.qualifiedName t.qualifiedName

end BaseChain

/-- A bulk rule whose contract is known. -/
structure Rule where
  /-- The contract. -/
  contract : TypeExpr
  /-- How long instances are kept. -/
  lifetime : Lifetime
  /-- Whether registrations are named after their type. -/
  namesByType : Bool
deriving Repr

namespace Rule

/-- The rule that a marker states, if it names a contract. -/
def ofMarker? (m : Marker) : Option Rule :=
  m.contract?.map fun c => ⟨c, m.lifetime, m.namesByType⟩

/-- Whether the contract is an interface, by its declaration or, if the module
has none, by what the rule says. -/
def isInterface (r : Rule) (s : Snapshot) : Bool :=
  match s.find? r.contract with
  | some d => d.isInterface
  | none => r.contract.isInterface

/-- The concrete types of the module, the contract's own declaration aside. -/
def candidates (r : Rule) (s : Snapshot) : List Declaration :=
  s.types.filter fun d => !d.isAbstract && d.key != r.contract.familyName

/-- The interfaces of a type that match the contract. -/
def matchingInterfaces (r : Rule) (s : Snapshot) (d : Declaration) : List TypeExpr :=
  if r.contract.isOpen then (s.interfacesOf d).filter r.contract.covers
  else ((s.interfacesOf d).find? r.contract.covers).toList

/-- The nearest base of a type that matches the contract. -/
def matchingBase? (r : Rule) (h : Host) (s : Snapshot) (d : Declaration) : Option TypeExpr :=
  ((s.basesOf d).filter fun b => !h.isRootObject b).find? r.contract.covers

/-- Whether the bases of a type are searched too. -/
def searchesBases (r : Rule) (s : Snapshot) (d : Declaration) : Bool :=
  (r.matchingInterfaces s d).isEmpty && !r.isInterface s

/-- The inherited references of a type that match the contract. -/
def matchesOf (r : Rule) (h : Host) (s : Snapshot) (d : Declaration) : List TypeExpr :=
  if r.searchesBases s d then (r.matchingBase? h s d).toList else r.matchingInterfaces s d

/-- What is told of the search for matches. -/
def searchEvents (r : Rule) (s : Snapshot) (d : Declaration) : List Event :=
  (InterfaceWalk.run s d).events d ++
    if r.searchesBases s d then (BaseChain.run s d).events d else []

/-- The registration of a type for a reference that it inherits. -/
def registration (r : Rule) (d : Declaration) (t : TypeExpr) : Registration where
  service := some (d.pairing t).1
  implementation := (d.pairing t).2
  lifetime := r.lifetime
  serviceName := if r.namesByType then some d.name else none

/-- The registration of a type for a match, if the type can serve. -/
def registration? (r : Rule) (d : Declaration) (t : TypeExpr) : Option Registration :=
  if d.canServe t then some (r.registration d t) else none

/-- What is told of a match. -/
def matchEvent (d : Declaration) (t : TypeExpr) : Event :=
  if d.canServe t then .ruleMatched (d.pairing t).1 (d.pairing t).2
  else .candidateSkipped d.qualifiedName t.qualifiedName

/-- The registrations of one candidate. -/
def registrationsOf (r : Rule) (h : Host) (s : Snapshot) (d : Declaration) : List Registration :=
  (r.matchesOf h s d).filterMap (r.registration? d)

/-- What is told of one candidate. -/
def eventsOf (r : Rule) (h : Host) (s : Snapshot) (d : Declaration) : List Event :=
  r.searchEvents s d ++ (r.matchesOf h s d).map (matchEvent d)

end Rule

/-- What one bulk rule adds to a plan. -/
structure Expansion where
  /-- The registrations, in the order of the candidates. -/
  registrations : List Registration
  /-- What is told, in order. -/
  events : List Event
deriving Repr

namespace Expansion

/-- The expansion of a rule. -/
def ofRule (h : Host) (s : Snapshot) (r : Rule) : Expansion :=
  let registrations := (r.candidates s).flatMap (r.registrationsOf h s)
  { registrations
    events := (r.candidates s).flatMap (r.eventsOf h s) ++
      [.ruleExpanded r.contract.qualifiedName r.contract.isOpen r.lifetime registrations.length] }

/-- The expansion of a marker; one that names no contract is skipped. -/
def ofMarker (h : Host) (s : Snapshot) (m : Marker) : Expansion :=
  match Rule.ofMarker? m with
  | some r => ofRule h s r
  | none => ⟨[], [.ruleWithoutContract]⟩

/-- The expansions of all bulk rules of the module, in order. -/
def all (h : Host) (s : Snapshot) : List Expansion :=
  (s.rules.filter (·.kind == .registerAll)).map (ofMarker h s)

end Expansion

end InjectionPlan
