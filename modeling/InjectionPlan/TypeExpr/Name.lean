import InjectionPlan.TypeExpr.Basic

/-! # Names of type expressions

    A type expression is written in three ways:
    - its *definition name* is the namespace and the simple name;
    - its *qualified name* also has the arguments, `Lib.Map<Lib.Key, T>`, or a
      comma between each two of the erased ones, `Lib.Map<,>`;
    - its *family name* has every argument erased.  All forms of one generic
      definition share it, so declarations are looked up by it.

    Instructions show the *display name*: the qualified name, or, for a name that
    could not be resolved, the simple name in a namespace that the user of the
    name suggests.
-/

namespace InjectionPlan

/-- Namespace and simple name, joined by a dot if there is a namespace. -/
def TypeHead.definitionName (h : TypeHead) : String :=
  if h.ns.isEmpty then h.name else h.ns ++ "." ++ h.name

/-- Angle brackets with a comma between each two of `count` erased arguments. -/
def erasedSuffix (count : Nat) : String :=
  "<" ++ String.ofList (List.replicate (count - 1) ',') ++ ">"

namespace TypeExpr

/-- Namespace and simple name. -/
def definitionName (t : TypeExpr) : String := t.head.definitionName

mutual

/-- Definition name and arguments. -/
def qualifiedName : TypeExpr → String
  | plain h => h.definitionName
  | applied h as => h.definitionName ++ ("<" ++ joinedNames as ++ ">")
  | erased h n => h.definitionName ++ erasedSuffix n.toNat

/-- The qualified names of a list of arguments, separated by a comma and a space. -/
def joinedNames : List TypeExpr → String
  | [] => ""
  | [a] => qualifiedName a
  | a :: b :: as => qualifiedName a ++ ", " ++ joinedNames (b :: as)

end

/-- Definition name and the erased arguments: the name that all forms of one
definition share. -/
def familyName (t : TypeExpr) : String :=
  t.definitionName ++ (if t.isGeneric then erasedSuffix t.arity else "")

/-- The name that instructions show.  A name that could not be resolved is put
into the namespace `home` if there is one. -/
def displayName (t : TypeExpr) (home : String) : String :=
  if t.isBroken then
    if home.isEmpty then t.name else home ++ "." ++ t.name
  else t.qualifiedName

theorem displayName_of_not_broken {t : TypeExpr} (h : t.isBroken = false) (home : String) :
    t.displayName home = t.qualifiedName := by
  simp [displayName, h]

end TypeExpr

end InjectionPlan
