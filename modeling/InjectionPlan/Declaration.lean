import InjectionPlan.Marker.Basic
import InjectionPlan.TypeExpr.Substitution

/-! # Declarations

    A declaration is a type that the module declares: its name and parameters,
    what it inherits, its methods, and the markers on it and on its methods.
-/

namespace InjectionPlan

/-- A place in a source file. -/
structure SourcePlace where
  /-- The file. -/
  file : String
  /-- The line. -/
  line : UInt32
  /-- The column. -/
  column : UInt32
deriving DecidableEq, Repr

/-- File, line and column, separated by colons. -/
def SourcePlace.text (s : SourcePlace) : String :=
  s.file ++ ":" ++ toString s.line.toNat ++ ":" ++ toString s.column.toNat

/-- Who may use a method. -/
inductive Access
  /-- Everybody. -/
  | everyone
  /-- The declaring module. -/
  | moduleOnly
  /-- The declaring module and all heirs. -/
  | moduleOrHeirs
  /-- All heirs. -/
  | heirs
  /-- The heirs inside the declaring module. -/
  | moduleHeirs
  /-- The declaring type. -/
  | typeOnly
deriving DecidableEq, Repr, Inhabited

/-- The access as the user writes it. -/
def Access.name : Access → String
  | everyone => "Public"
  | moduleOnly => "Internal"
  | moduleOrHeirs => "ProtectedInternal"
  | heirs => "Protected"
  | moduleHeirs => "PrivateProtected"
  | typeOnly => "Private"

/-- Whether the whole module may use a method with this access, and generated
code can therefore call it whatever type it stands in. -/
def Access.isCallable : Access → Bool
  | everyone | moduleOnly => true
  | _ => false

/-- A parameter of a method. -/
structure Parameter where
  /-- The name. -/
  name : String
  /-- The type. -/
  type : TypeExpr
deriving Repr

/-- A method of a declared type. -/
structure Method where
  /-- The name. -/
  name : String
  /-- Who may use it. -/
  access : Access
  /-- Whether it is static. -/
  isStatic : Bool
  /-- Its parameters. -/
  parameters : List Parameter
  /-- The markers on it. -/
  markers : List Marker
  /-- Where it is declared. -/
  span : Option SourcePlace
deriving Repr

/-- The first marker of a kind on the method. -/
def Method.marker? (m : Method) (kind : MarkerKind) : Option Marker :=
  m.markers.find? (·.kind == kind)

/-- What a declaration declares. -/
inductive DeclarationKind
  /-- A class. -/
  | classType
  /-- A struct. -/
  | structType
  /-- An interface. -/
  | interfaceType
deriving DecidableEq, Repr, Inhabited

/-- The kind of an expression that names such a declaration. -/
def DeclarationKind.toTypeKind : DeclarationKind → TypeKind
  | classType => .classType
  | structType => .structType
  | interfaceType => .interfaceType

/-- A type that the module declares. -/
structure Declaration where
  /-- The namespace, empty for the global one. -/
  ns : String
  /-- The simple name. -/
  name : String
  /-- Class, struct or interface. -/
  kind : DeclarationKind
  /-- The names of the type parameters. -/
  params : List String
  /-- The base type. -/
  base : Option TypeExpr
  /-- The interfaces that are written down, in order. -/
  interfaces : List TypeExpr
  /-- Whether it is declared abstract. -/
  declaredAbstract : Bool
  /-- Whether other files may add to it. -/
  isPartial : Bool
  /-- Its methods. -/
  methods : List Method
  /-- The markers on it. -/
  markers : List Marker
  /-- Where it is declared. -/
  span : Option SourcePlace
deriving Repr

namespace Declaration

/-- The declaration's own name and kind. -/
def head (d : Declaration) : TypeHead := ⟨d.ns, d.name, d.kind.toTypeKind⟩

/-- The declaration as a type expression, applied to its own parameters. -/
def self (d : Declaration) : TypeExpr := TypeExpr.apply d.head (d.params.map TypeExpr.param)

/-- The qualified name, with the parameters. -/
def qualifiedName (d : Declaration) : String := d.self.qualifiedName

/-- The name that all forms of the declared type share. -/
def key (d : Declaration) : String := d.self.familyName

/-- Whether it is an interface. -/
def isInterface (d : Declaration) : Bool := d.kind == .interfaceType

/-- Whether it has type parameters. -/
def isGeneric (d : Declaration) : Bool := d.self.isGeneric

/-- Whether no instance can be made: it is declared abstract or is an interface. -/
def isAbstract (d : Declaration) : Bool := d.declaredAbstract || d.isInterface

/-- The markers of one kind, in order. -/
def markersOf (d : Declaration) (kind : MarkerKind) : List Marker :=
  d.markers.filter (·.kind == kind)

/-- Whether neither the type nor one of its methods has a marker. -/
def isUnmarked (d : Declaration) : Bool :=
  d.markers.isEmpty && d.methods.all (·.markers.isEmpty)

@[simp] theorem args_self (d : Declaration) : d.self.args = d.params.map TypeExpr.param :=
  TypeExpr.args_apply _ _

@[simp] theorem head_self (d : Declaration) : d.self.head = d.head :=
  TypeExpr.head_apply _ _

end Declaration

end InjectionPlan
