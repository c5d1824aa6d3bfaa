import InjectionPlan.Lifetime
import InjectionPlan.TypeExpr.Name

/-! # Markers

    A marker is an annotation that asks for wiring.  It sits on a type, on a
    method or on the whole module, according to its kind, and carries named
    arguments, a type argument and positional arguments.

    A contract, a lifetime and a few flags can be given in more than one of these
    places; the functions below say which place wins.
-/

namespace InjectionPlan

/-- What a marker asks for. -/
inductive MarkerKind
  /-- Register the marked type. -/
  | register
  /-- Register every implementation of a contract in the module. -/
  | registerAll
  /-- Wrap a contract with the marked type. -/
  | decorate
  /-- Call the marked method with the registry. -/
  | registrationExtension
deriving DecidableEq, Repr, Inhabited

namespace MarkerKind

/-- The kind as the user writes it. -/
def name : MarkerKind → String
  | register => "Register"
  | registerAll => "RegisterAll"
  | decorate => "Decorate"
  | registrationExtension => "RegistrationExtension"

/-- Whether the marker may sit on a type. -/
def fitsType : MarkerKind → Bool
  | register | decorate => true
  | _ => false

/-- Whether the marker may sit on a method. -/
def fitsMethod : MarkerKind → Bool
  | registrationExtension => true
  | _ => false

/-- Whether the marker may sit on the module. -/
def fitsModule : MarkerKind → Bool
  | registerAll => true
  | _ => false

end MarkerKind

/-- The value of a marker's argument. -/
inductive Argument
  /-- A truth value. -/
  | flag (b : Bool)
  /-- A number. -/
  | number (n : Int64)
  /-- A text. -/
  | text (s : String)
  /-- A lifetime. -/
  | lifetime (l : Lifetime)
  /-- A type. -/
  | type (t : TypeExpr)
deriving Repr, Inhabited

namespace Argument

/-- The type that the argument is. -/
def type? : Argument → Option TypeExpr
  | type t => some t
  | _ => none

/-- The text that the argument is. -/
def text? : Argument → Option String
  | text s => some s
  | _ => none

/-- Reads `true` or `false` in ASCII letters of either case, with blanks around. -/
def readFlag? (s : String) : Option Bool :=
  let t := (Text.trim s).toList.map Char.toLower
  if t = ['t', 'r', 'u', 'e'] then some true
  else if t = ['f', 'a', 'l', 's', 'e'] then some false
  else none

/-- The truth value that the argument is, or that its text spells. -/
def flag? : Argument → Option Bool
  | flag b => some b
  | text s => readFlag? s
  | _ => none

/-- The lifetime that the argument is, that its text spells, or whose tag its
number is. -/
def lifetime? : Argument → Option Lifetime
  | lifetime l => some l
  | text s => (Lifetime.parse s).toOption
  | number n =>
    if 0 ≤ n.toInt ∧ n.toInt < 256 then (Lifetime.ofTag (UInt8.ofNat n.toInt.toNat)).toOption
    else none
  | _ => none

/-- Whether the argument is a lifetime itself, not one that is spelled. -/
def isLifetime : Argument → Bool
  | lifetime _ => true
  | _ => false

end Argument

/-- An annotation that asks for wiring. -/
structure Marker where
  /-- What is asked for. -/
  kind : MarkerKind
  /-- Arguments given by name, in the order given.  A name may occur twice. -/
  named : List (String × Argument)
  /-- The type argument of the marker itself. -/
  typeArgument : Option TypeExpr
  /-- Arguments given by position. -/
  positional : List Argument
deriving Repr, Inhabited

/-- The names of the arguments that have a meaning. -/
inductive ArgumentKey
  /-- The contract to register or decorate. -/
  | contract
  /-- The lifetime of the instances. -/
  | lifetime
  /-- The name to register under. -/
  | serviceName
  /-- Whether bulk registrations are named after their type. -/
  | includeServiceName
  /-- Whether the method's type is itself a source of registrations. -/
  | compositionSource
deriving DecidableEq, Repr

/-- The key as the user writes it. -/
def ArgumentKey.name : ArgumentKey → String
  | contract => "ServiceType"
  | lifetime => "Lifetime"
  | serviceName => "ServiceName"
  | includeServiceName => "IncludeServiceName"
  | compositionSource => "CompositionSource"

namespace Marker

/-- A marker without arguments. -/
def bare (kind : MarkerKind) : Marker := ⟨kind, [], none, []⟩

/-- The first argument given under a name. -/
def argument? (m : Marker) (name : String) : Option Argument := m.named.lookup name

/-- The contract that the marker names: the argument for it, if that is a type;
else the type argument; else the first positional argument, if that is a type. -/
def contract? (m : Marker) : Option TypeExpr :=
  ((m.argument? ArgumentKey.contract.name).bind Argument.type?).or
    (m.typeArgument.or (m.positional.head?.bind Argument.type?))

/-- The lifetime asked for: the argument for it, if it can be read; else the
first positional argument that is a lifetime; else transient. -/
def lifetime (m : Marker) : Lifetime :=
  (((m.argument? ArgumentKey.lifetime.name).bind Argument.lifetime?).or
    ((m.positional.filter Argument.isLifetime).findSome? Argument.lifetime?)).getD .transient

/-- The name to register under, if the argument for it is a text. -/
def serviceName? (m : Marker) : Option String :=
  (m.argument? ArgumentKey.serviceName.name).bind Argument.text?

/-- Whether a flag is set; one that is absent or cannot be read is not. -/
def flagged (m : Marker) (key : ArgumentKey) : Bool :=
  ((m.argument? key.name).bind Argument.flag?).getD false

/-- Whether bulk registrations are named after their type. -/
def namesByType (m : Marker) : Bool := m.flagged .includeServiceName

/-- Whether the method's type is itself a source of registrations. -/
def isSource (m : Marker) : Bool := m.flagged .compositionSource

end Marker

end InjectionPlan
