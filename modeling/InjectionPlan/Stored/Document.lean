/-! # Documents

    Plans and all that belongs to them can be stored as documents: trees of
    lists and objects over null, truth values, numbers and texts.  An object is a
    list of named fields; a field is looked up by its name, and fields that nobody
    asks for are ignored.

    Values are stored in a uniform way.
    - A structure is an object with a field for each of its own.
    - A constructor without arguments is its name.  Read back, an object with that
      name and null is the same.
    - A constructor with an argument is an object with one field, named after it.
    - An absent value is null.  Read back, a missing field is the same.
-/

namespace InjectionPlan

/-- A stored value. -/
inductive Document
  /-- Nothing. -/
  | null
  /-- A truth value. -/
  | bool (b : Bool)
  /-- An integer. -/
  | integer (n : Int)
  /-- A number with a fraction: the digits of `mantissa`, the last `places` of them
  after the point. -/
  | decimal (mantissa : Int) (places : Nat)
  /-- A text. -/
  | text (s : String)
  /-- A list of values. -/
  | list (items : List Document)
  /-- Values by name. -/
  | object (fields : List (String × Document))
deriving Repr, Inhabited

/-- The fields of an object. -/
abbrev Fields := List (String × Document)

namespace Document

/-- The fields that the document has, if it is an object. -/
def fields? : Document → Option Fields
  | object fs => some fs
  | _ => none

/-- The text that the document is. -/
def text? : Document → Option String
  | text s => some s
  | _ => none

/-- The truth value that the document is. -/
def bool? : Document → Option Bool
  | bool b => some b
  | _ => none

/-- The integer that the document is, if it lies between the bounds. -/
def integer? (least greatest : Int) : Document → Option Int
  | integer n => if least ≤ n ∧ n ≤ greatest then some n else none
  | _ => none

/-- The unsigned integer of 32 bits that the document is. -/
def uint32? (d : Document) : Option UInt32 :=
  (d.integer? 0 0xffffffff).map fun n => UInt32.ofNat n.toNat

/-- The unsigned integer of 64 bits that the document is. -/
def uint64? (d : Document) : Option UInt64 :=
  (d.integer? 0 0xffffffffffffffff).map fun n => UInt64.ofNat n.toNat

/-- The signed integer of 64 bits that the document is. -/
def int64? (d : Document) : Option Int64 :=
  (d.integer? (-0x8000000000000000) 0x7fffffffffffffff).map Int64.ofInt

/-- The values that the items of a list stand for. -/
def list? {α : Type} (read : Document → Option α) : Document → Option (List α)
  | list ds => ds.mapM read
  | _ => none

/-- The value that a document other than null stands for. -/
def option? {α : Type} (read : Document → Option α) : Document → Option (Option α)
  | null => some none
  | d => (read d).map some

/-- The pair that a list of two items stands for. -/
def pair? {α β : Type} (readFirst : Document → Option α) (readSecond : Document → Option β) :
    Document → Option (α × β)
  | list [a, b] => do return (← readFirst a, ← readSecond b)
  | _ => none

/-- The name of the constructor without arguments that the document stands for. -/
def constant? : Document → Option String
  | text s => some s
  | object [(s, null)] => some s
  | _ => none

/-- The constructor that the document stands for, among those with these names. -/
def oneOf? {α : Type} (names : List (String × α)) (d : Document) : Option α :=
  d.constant?.bind fun s => names.lookup s

/-- The name and the argument of the constructor that the document stands for. -/
def constructor? : Document → Option (String × Document)
  | object [(s, d)] => some (s, d)
  | _ => none

/-- An optional value, null if it is absent. -/
def ofOption {α : Type} (store : α → Document) : Option α → Document
  | none => null
  | some a => store a

/-- A list of values. -/
def ofList {α : Type} (store : α → Document) (as : List α) : Document := list (as.map store)

end Document

namespace Fields

/-- The value of a field that must be there. -/
def required {α : Type} (fs : Fields) (name : String) (read : Document → Option α) : Option α :=
  (fs.lookup name).bind read

/-- The value of a field that may be missing or null. -/
def optional {α : Type} (fs : Fields) (name : String) (read : Document → Option α) :
    Option (Option α) :=
  match fs.lookup name with
  | none => some none
  | some d => d.option? read

/-- The value of a field that has a default when it is missing. -/
def defaulted {α : Type} (fs : Fields) (name : String) (read : Document → Option α)
    (default : α) : Option α :=
  match fs.lookup name with
  | none => some default
  | some d => read d

end Fields

end InjectionPlan
