import InjectionPlan.Text.Blank

/-! # Modes of a pattern

    Letters in a pattern turn modes on and off, each for the rest of the group that
    it stands in:
    - `i` ignores the case of letters,
    - `u`, which is on at first, lets the pattern speak of characters and not of
      bytes,
    - `x` allows blanks and comments between the parts of the pattern,
    - `m`, `s`, `U` and `R` change what a pattern matches, but not which patterns are
      well formed.

    The patterns are those that a log filter may hold (`Log.isWantedValue`).  Their
    syntax comes with the logging facility that the program runs with.  Nothing else
    reads patterns, and no plan or result depends on them.
-/

namespace InjectionPlan.Pattern

/-- The modes that matter for which patterns are well formed. -/
structure Modes where
  /-- The case of letters is ignored. -/
  ignoresCase : Bool
  /-- The pattern speaks of characters. -/
  isUnicode : Bool
  /-- Blanks and comments do not count. -/
  skipsBlanks : Bool
deriving DecidableEq, Repr

/-- The text behind blanks and comments.  A comment goes from a number sign to the
end of its line. -/
def dropBlanks (inComment : Bool) : List Char → List Char
  | [] => []
  | c :: cs =>
    if inComment then dropBlanks (c ≠ '\n') cs
    else if Text.isBlank c then dropBlanks false cs
    else if c = '#' then dropBlanks true cs
    else c :: cs

/-- The next character that is no blank, where a number sign that opens a comment
does not count but the comment does. -/
def nextVisible? (inComment : Bool) : List Char → Option Char
  | [] => none
  | c :: cs =>
    if Text.isBlank c then nextVisible? inComment cs
    else if c = '#' && !inComment then nextVisible? true cs
    else some c

namespace Modes

/-- The modes at the start of a pattern. -/
def initial : Modes := ⟨false, true, false⟩

/-- The text behind what does not count. -/
def skip (m : Modes) (cs : List Char) : List Char :=
  if m.skipsBlanks then dropBlanks false cs else cs

/-- The next character that counts. -/
def peek? (m : Modes) (cs : List Char) : Option Char :=
  if m.skipsBlanks then nextVisible? false cs else cs.head?

/-- The modes after a letter turned one on or off. -/
def turn (m : Modes) (on : Bool) (letter : Char) : Modes :=
  if letter = 'i' then { m with ignoresCase := on }
  else if letter = 'u' then { m with isUnicode := on }
  else if letter = 'x' then { m with skipsBlanks := on }
  else m

/-- The modes after letters, of which those behind a minus sign turn modes off. -/
def turnAll (m : Modes) (on : Bool) : List Char → Modes
  | [] => m
  | c :: cs => if c = '-' then turnAll m false cs else turnAll (m.turn on c) on cs

end Modes

/-- What may stand where modes are turned on and off. -/
def modeLetters : List Char := ['i', 'm', 's', 'U', 'u', 'R', 'x', '-']

/-- Reads the letters up to a colon or a closing parenthesis, which is given too.
No letter stands there twice, and the minus sign is not the last. -/
def readLetters? (seen : List Char) : List Char → Option (List Char × Char × List Char)
  | [] => none
  | c :: cs =>
    if c = ':' || c = ')' then
      if seen.head? = some '-' then none else some (seen.reverse, c, cs)
    else if c ∈ modeLetters && c ∉ seen then readLetters? (c :: seen) cs
    else none

end InjectionPlan.Pattern
