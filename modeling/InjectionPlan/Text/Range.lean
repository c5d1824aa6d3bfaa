/-! # Tables of code point ranges

    A character property is given by a table of inclusive ranges of code points,
    written in increasing order.  A character has the property when some range
    of the table holds its code point.
-/

namespace InjectionPlan.Text

/-- An inclusive range of code points. -/
structure CodeRange where
  /-- The first code point of the range. -/
  first : Nat
  /-- The last code point of the range. -/
  last : Nat
deriving DecidableEq, Repr

/-- Whether the range holds the code point `n`. -/
def CodeRange.holds (r : CodeRange) (n : Nat) : Bool :=
  r.first ≤ n && n ≤ r.last

/-- Whether some range of the table holds the character. -/
def inTable (table : List CodeRange) (c : Char) : Bool :=
  table.any (·.holds c.toNat)

end InjectionPlan.Text
