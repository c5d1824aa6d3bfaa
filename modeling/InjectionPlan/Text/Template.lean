/-! # Message templates

    A template is a text with numbered holes.  A hole is written as its number
    in braces.  Arguments are put in one after another: every written hole `0`
    is replaced by the first argument, then every written hole `1` by the
    second, and so on, each time in the whole text as it stands then.  So an
    argument that holds a later hole has that hole filled too, while a hole of
    its own number or an earlier one is kept.

    `Template.instantiate` is the other way to fill a template: every hole at
    once, the arguments untouched.
-/

namespace InjectionPlan.Text

/-- A part of a template. -/
inductive Piece
  /-- Text that is kept. -/
  | words (s : String)
  /-- The place of the argument with this number. -/
  | hole (n : Nat)
deriving DecidableEq, Repr

/-- A text with numbered holes. -/
abbrev Template := List Piece

/-- The written form of a hole: its number in braces. -/
def holeMark (n : Nat) : List Char :=
  '\x7b' :: Nat.toDigits 10 n ++ ['\x7d']

namespace Piece

/-- The written form of a piece. -/
def text : Piece → List Char
  | words s => s.toList
  | hole n => holeMark n

/-- A piece with its argument in place; a hole without an argument stays as written. -/
def instantiate (args : List String) : Piece → List Char
  | words s => s.toList
  | hole n => (args[n]?.map String.toList).getD (holeMark n)

end Piece

/-- The written form of a template. -/
def Template.text (t : Template) : String :=
  String.ofList (t.flatMap Piece.text)

/-- All holes filled at once. -/
def Template.instantiate (t : Template) (args : List String) : String :=
  String.ofList (t.flatMap (Piece.instantiate args))

/-- Replaces, from left to right, each occurrence of `mark` after the first
`skip` characters by `insert`.  The skipped characters are left out: they are the
rest of an occurrence already replaced. -/
def replaceFrom (mark insert : List Char) : Nat → List Char → List Char
  | _, [] => []
  | skip + 1, _ :: cs => replaceFrom mark insert skip cs
  | 0, c :: cs =>
    if mark.isPrefixOf (c :: cs) then insert ++ replaceFrom mark insert (mark.length - 1) cs
    else c :: replaceFrom mark insert 0 cs

/-- Replaces each occurrence of `mark`, from left to right, by `insert`. -/
def replaceAll (mark insert text : List Char) : List Char :=
  replaceFrom mark insert 0 text

/-- Puts the arguments in, the first at hole `n`, each into the text that the
one before it left. -/
def fillFrom : Nat → List String → List Char → List Char
  | _, [], text => text
  | n, a :: args, text => fillFrom (n + 1) args (replaceAll (holeMark n) a.toList text)

/-- The written form of the template with the arguments put in one after another. -/
def Template.fill (t : Template) (args : List String) : String :=
  String.ofList (fillFrom 0 args (t.flatMap Piece.text))

end InjectionPlan.Text
