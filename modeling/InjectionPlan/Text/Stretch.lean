/-! # Stretches of a text

    A place in a text is told by the number of bytes before it, and a stretch by
    the places of its two ends.  A character takes one to four bytes, so a place may
    be within a character; a text cannot be cut there.
-/

namespace InjectionPlan.Text

/-- The number of bytes that the characters take. -/
def byteLength : List Char → Nat
  | [] => 0
  | c :: cs => c.utf8Size + byteLength cs

/-- The text before a place and the text behind it. -/
def splitBytes? (n : Nat) : List Char → Option (List Char × List Char)
  | [] => if n = 0 then some ([], []) else none
  | c :: cs =>
    if n = 0 then some ([], c :: cs)
    else if c.utf8Size ≤ n then
      (splitBytes? (n - c.utf8Size) cs).map fun (front, back) => (c :: front, back)
    else none

/-- A stretch of a text. -/
structure Stretch where
  /-- The place where it starts. -/
  first : Nat
  /-- The place where it ends. -/
  last : Nat
deriving DecidableEq, Repr

/-- The characters in the stretch of a text. -/
def Stretch.cut? (s : Stretch) (cs : List Char) : Option (List Char) :=
  (splitBytes? s.last cs).bind fun (front, _) => (splitBytes? s.first front).map (·.2)

end InjectionPlan.Text
