import InjectionPlan.Stored.Document
import InjectionPlan.TypeExpr.Basic

/-! # Stored type expressions

    A type expression is stored with its namespace, name and kind, and with its
    generic arguments in one of three forms: none, bound to a list, or unbound and
    counted.
-/

namespace InjectionPlan

namespace TypeKind

/-- The stored names of the kinds. -/
def storedNames : List (String × TypeKind) :=
  [("Class", .classType), ("Struct", .structType), ("Interface", .interfaceType),
    ("Parameter", .parameter), ("Error", .broken)]

/-- The stored name of a kind. -/
def storedName : TypeKind → String
  | classType => "Class"
  | structType => "Struct"
  | interfaceType => "Interface"
  | parameter => "Parameter"
  | broken => "Error"

end TypeKind

/-- Generic arguments without the head that they belong to. -/
inductive Generics
  /-- No arguments. -/
  | none
  /-- Written arguments. -/
  | bound (args : List TypeExpr)
  /-- Erased arguments. -/
  | unbound (count : UInt64)
deriving Repr

namespace Generics

/-- The head with the arguments. -/
def attach (h : TypeHead) : Generics → TypeExpr
  | none => .plain h
  | bound as => .applied h as
  | unbound n => .erased h n

end Generics

namespace TypeHead

/-- The fields of a head, followed by the generic arguments. -/
def store (h : TypeHead) (generics : Document) : Document :=
  .object [("namespace", .text h.ns), ("name", .text h.name), ("kind", .text h.kind.storedName),
    ("generics", generics)]

/-- Reads the fields of a head. -/
def restore? (fs : Fields) : Option TypeHead := do
  let ns ← fs.required "namespace" Document.text?
  let name ← fs.required "name" Document.text?
  let kind ← fs.required "kind" (Document.oneOf? TypeKind.storedNames)
  return ⟨ns, name, kind⟩

end TypeHead

namespace TypeExpr

mutual

/-- Stores a type expression. -/
def store : TypeExpr → Document
  | plain h => h.store (.text "None")
  | applied h as => h.store (.object [("Bound", .list (storeAll as))])
  | erased h n => h.store (.object [("Unbound", .integer n.toNat)])

/-- Stores each expression of a list. -/
def storeAll : List TypeExpr → List Document
  | [] => []
  | a :: as => store a :: storeAll as

end

mutual

/-- Reads a type expression. -/
def restore? : Document → Option TypeExpr
  | .object fs => do
    let h ← TypeHead.restore? fs
    let g ← genericsField? fs
    return g.attach h
  | _ => none
termination_by structural d => d

/-- Reads the field of the generic arguments. -/
def genericsField? : Fields → Option Generics
  | [] => none
  | (name, d) :: fs => if name = "generics" then generics? d else genericsField? fs
termination_by structural fs => fs

/-- Reads generic arguments. -/
def generics? : Document → Option Generics
  | .text s => if s = "None" then some .none else none
  | .object fs => genericsForm? fs
  | _ => none
termination_by structural d => d

/-- Reads the form of generic arguments, which is the name of the only field. -/
def genericsForm? : Fields → Option Generics
  | [("None", .null)] => some .none
  | [("Bound", .list ds)] => (restoreAll? ds).map .bound
  | [("Unbound", d)] => d.uint64?.map .unbound
  | _ => none
termination_by structural fs => fs

/-- Reads each expression of a list. -/
def restoreAll? : List Document → Option (List TypeExpr)
  | [] => some []
  | d :: ds => do
    let a ← restore? d
    let as ← restoreAll? ds
    return a :: as
termination_by structural ds => ds

end

end TypeExpr

end InjectionPlan
