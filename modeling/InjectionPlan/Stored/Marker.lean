import InjectionPlan.Declaration
import InjectionPlan.Stored.TypeExpr

/-! # Stored lifetimes, accesses, places and markers -/

namespace InjectionPlan

namespace Lifetime

/-- Stores a lifetime by its name. -/
def store (l : Lifetime) : Document := .text l.name

/-- Reads a lifetime. -/
def restore? : Document → Option Lifetime :=
  Document.oneOf? (all.map fun l => (l.name, l))

end Lifetime

namespace Access

/-- All accesses. -/
def all : List Access := [everyone, moduleOnly, moduleOrHeirs, heirs, moduleHeirs, typeOnly]

/-- The access of a name. -/
def ofName? (s : String) : Option Access := (all.map fun a => (a.name, a)).lookup s

/-- Stores an access by its name. -/
def store (a : Access) : Document := .text a.name

/-- Reads an access. -/
def restore? : Document → Option Access := Document.oneOf? (all.map fun a => (a.name, a))

end Access

namespace SourcePlace

/-- Stores a place. -/
def store (s : SourcePlace) : Document :=
  .object [("file", .text s.file), ("line", .integer s.line.toNat),
    ("column", .integer s.column.toNat)]

/-- Reads a place. -/
def restore? (d : Document) : Option SourcePlace := do
  let fs ← d.fields?
  let file ← fs.required "file" Document.text?
  let line ← fs.required "line" Document.uint32?
  let column ← fs.required "column" Document.uint32?
  return ⟨file, line, column⟩

end SourcePlace

namespace MarkerKind

/-- All kinds of markers. -/
def all : List MarkerKind := [register, registerAll, decorate, registrationExtension]

/-- The kind of a name. -/
def ofName? (s : String) : Option MarkerKind := (all.map fun k => (k.name, k)).lookup s

/-- Stores a kind by its name. -/
def store (k : MarkerKind) : Document := .text k.name

/-- Reads a kind. -/
def restore? : Document → Option MarkerKind := Document.oneOf? (all.map fun k => (k.name, k))

end MarkerKind

namespace Argument

/-- Stores an argument. -/
def store : Argument → Document
  | flag b => .object [("Bool", .bool b)]
  | number n => .object [("Int", .integer n.toInt)]
  | text s => .object [("Str", .text s)]
  | lifetime l => .object [("Lifetime", l.store)]
  | type t => .object [("Type", t.store)]

/-- Reads an argument. -/
def restore? (d : Document) : Option Argument :=
  match d.constructor? with
  | some ("Bool", v) => v.bool?.map flag
  | some ("Int", v) => v.int64?.map number
  | some ("Str", v) => v.text?.map text
  | some ("Lifetime", v) => (Lifetime.restore? v).map lifetime
  | some ("Type", v) => (TypeExpr.restore? v).map type
  | _ => none

end Argument

namespace Marker

/-- Stores a named argument as a pair. -/
def storeNamed (a : String × Argument) : Document := .list [.text a.1, a.2.store]

/-- Stores a marker. -/
def store (m : Marker) : Document :=
  .object [("kind", m.kind.store), ("arguments", .ofList storeNamed m.named),
    ("type_argument", .ofOption TypeExpr.store m.typeArgument),
    ("constructor_arguments", .ofList Argument.store m.positional)]

/-- Reads a marker. -/
def restore? (d : Document) : Option Marker := do
  let fs ← d.fields?
  let kind ← fs.required "kind" MarkerKind.restore?
  let named ← fs.required "arguments"
    (Document.list? (Document.pair? Document.text? Argument.restore?))
  let typeArgument ← fs.optional "type_argument" TypeExpr.restore?
  let positional ← fs.required "constructor_arguments" (Document.list? Argument.restore?)
  return ⟨kind, named, typeArgument, positional⟩

end Marker

end InjectionPlan
