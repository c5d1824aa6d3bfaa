/-! # Type expressions

    A type expression is a type as it is written in a base list, an interface
    list, a parameter or a marker.  It has a head (namespace, simple name and
    kind) and comes in three forms:
    - plain, without generic arguments;
    - applied to a list of arguments;
    - erased: the arguments are left out and only their number is kept.

    `TypeExpr.apply` and `TypeExpr.erase` build the last two forms and give a
    plain expression when there is nothing to apply or to erase.
-/

namespace InjectionPlan

/-- What a name stands for. -/
inductive TypeKind
  /-- A class. -/
  | classType
  /-- A struct. -/
  | structType
  /-- An interface. -/
  | interfaceType
  /-- A type parameter of a generic declaration. -/
  | parameter
  /-- A name that could not be resolved; only its simple name is known. -/
  | broken
deriving DecidableEq, Repr, Inhabited

/-- A type's name and kind, without generic arguments. -/
structure TypeHead where
  /-- The namespace, empty for the global one. -/
  ns : String
  /-- The simple name. -/
  name : String
  /-- What the name stands for. -/
  kind : TypeKind
deriving DecidableEq, Repr, Inhabited

/-- A type as it is written where it is used. -/
inductive TypeExpr
  /-- The head alone. -/
  | plain (head : TypeHead)
  /-- The head applied to arguments. -/
  | applied (head : TypeHead) (args : List TypeExpr)
  /-- The head with its arguments erased. -/
  | erased (head : TypeHead) (count : UInt64)
deriving Repr, Inhabited

namespace TypeExpr

/-- The head applied to the arguments; plain if there are none. -/
def apply (head : TypeHead) (args : List TypeExpr) : TypeExpr :=
  if args.isEmpty then plain head else applied head args

/-- The head with `count` arguments erased; plain if there are none. -/
def erase (head : TypeHead) (count : UInt64) : TypeExpr :=
  if count = 0 then plain head else erased head count

/-- A type parameter. -/
def param (name : String) : TypeExpr := plain ⟨"", name, .parameter⟩

/-- The name and kind of the expression. -/
def head : TypeExpr → TypeHead
  | plain h => h
  | applied h _ => h
  | erased h _ => h

/-- The simple name. -/
def name (t : TypeExpr) : String := t.head.name

/-- What the name stands for. -/
def kind (t : TypeExpr) : TypeKind := t.head.kind

/-- The arguments that are written, none for a plain or erased expression. -/
def args : TypeExpr → List TypeExpr
  | plain _ => []
  | applied _ as => as
  | erased _ _ => []

/-- The number of generic arguments, written or erased. -/
def arity : TypeExpr → Nat
  | plain _ => 0
  | applied _ as => as.length
  | erased _ n => n.toNat

/-- Whether there is at least one generic argument. -/
def isGeneric (t : TypeExpr) : Bool := 0 < t.arity

/-- Whether the expression is an interface. -/
def isInterface (t : TypeExpr) : Bool := t.kind == .interfaceType

/-- Whether the name could not be resolved. -/
def isBroken (t : TypeExpr) : Bool := t.kind == .broken

/-- Whether the expression is a type parameter. -/
def isParameter (t : TypeExpr) : Bool := t.kind == .parameter

/-- Whether nothing is said about the arguments: they are erased, or each of
them is still a type parameter. -/
def isOpen : TypeExpr → Bool
  | plain _ => false
  | applied _ as => as.all isParameter
  | erased _ _ => true

@[simp] theorem args_applied (h : TypeHead) (as : List TypeExpr) : (applied h as).args = as := rfl

@[simp] theorem head_apply (h : TypeHead) (as : List TypeExpr) : (apply h as).head = h := by
  unfold apply
  split <;> rfl

@[simp] theorem args_apply (h : TypeHead) (as : List TypeExpr) : (apply h as).args = as := by
  unfold apply
  split
  · rename_i e
    rw [List.isEmpty_iff] at e
    exact e.symm
  · rfl

@[simp] theorem arity_apply (h : TypeHead) (as : List TypeExpr) :
    (apply h as).arity = as.length := by
  unfold apply
  split
  · rename_i e
    rw [List.isEmpty_iff] at e
    rw [e]
    rfl
  · rfl

@[simp] theorem head_erase (h : TypeHead) (n : UInt64) : (erase h n).head = h := by
  unfold erase
  split <;> rfl

@[simp] theorem arity_erase (h : TypeHead) (n : UInt64) : (erase h n).arity = n.toNat := by
  unfold erase
  split
  · rename_i e
    rw [e]
    rfl
  · rfl

theorem isOpen_erase (h : TypeHead) {n : UInt64} (hn : 0 < n.toNat) :
    (erase h n).isOpen = true := by
  have hne : n ≠ 0 := by
    intro e
    rw [e] at hn
    exact Nat.lt_irrefl 0 hn
  rw [erase, if_neg hne]
  rfl

end TypeExpr

end InjectionPlan
