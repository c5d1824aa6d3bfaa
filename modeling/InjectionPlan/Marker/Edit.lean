import InjectionPlan.Marker.Basic

/-! # Building markers

    A marker is built from a bare one, or from a bulk rule for a contract, by
    edits.  Named and positional arguments are added at the end; the type
    argument is replaced.
-/

namespace InjectionPlan

namespace Marker

/-- A bulk rule whose contract is its first positional argument. -/
def bulkByPosition (contract : TypeExpr) : Marker :=
  { bare .registerAll with positional := [.type contract] }

/-- A bulk rule whose contract is its type argument. -/
def bulkByType (contract : TypeExpr) : Marker :=
  { bare .registerAll with typeArgument := some contract }

/-- One addition to a marker. -/
inductive Edit
  /-- Add a named argument. -/
  | named (name : String) (value : Argument)
  /-- Set the type argument. -/
  | typeArgument (t : TypeExpr)
  /-- Add a positional argument. -/
  | positional (value : Argument)
deriving Repr

namespace Edit

/-- Add the argument with this meaning. -/
def keyed (key : ArgumentKey) (value : Argument) : Edit := named key.name value

/-- Name the contract. -/
def contract (t : TypeExpr) : Edit := keyed .contract (.type t)

/-- Ask for a lifetime. -/
def lifetime (l : Lifetime) : Edit := keyed .lifetime (.lifetime l)

/-- Register under a name. -/
def serviceName (s : String) : Edit := keyed .serviceName (.text s)

/-- Name bulk registrations after their type. -/
def includeServiceName : Edit := keyed .includeServiceName (.flag true)

/-- Make the method's type a source of registrations. -/
def compositionSource : Edit := keyed .compositionSource (.flag true)

end Edit

/-- The marker after one edit. -/
def edit (m : Marker) : Edit → Marker
  | .named name value => { m with named := m.named ++ [(name, value)] }
  | .typeArgument t => { m with typeArgument := some t }
  | .positional value => { m with positional := m.positional ++ [value] }

/-- The marker after a run of edits. -/
def edits (m : Marker) (es : List Edit) : Marker := es.foldl edit m

/-- The marker's successive states, the given one first and one after each edit. -/
def states (m : Marker) : List Edit → List Marker
  | [] => [m]
  | e :: es => m :: states (m.edit e) es

end Marker

end InjectionPlan
