import InjectionPlan.Pattern.Modes

/-! # Atoms of a pattern

    The smallest parts of a pattern.  An atom is allowed if
    - no table of characters is needed for it: while the pattern speaks of
      characters, there are neither classes of characters, nor edges of words, nor
      pairs of letters that differ in case;
    - it matches whole characters only: while the pattern speaks of bytes, it cannot
      leave the ASCII range but by a literal character.

    Both conditions are set by the logging facility, as is the whole syntax of
    patterns; they matter for the filters of the log only, and no result is about them.
-/

namespace InjectionPlan.Pattern

/-- The smallest parts of a pattern. -/
inductive Atom
  /-- A character, given by the code of a byte if `isByte` says so. -/
  | literal (c : Char) (isByte : Bool)
  /-- Any character of a line. -/
  | anything
  /-- An end of the text or of a line. -/
  | anchor
  /-- An edge of a word, or the lack of one. -/
  | wordEdge
  /-- Digits, blanks or the characters of words, or all others. -/
  | charClass (isNegated : Bool)
deriving DecidableEq, Repr

namespace Atom

/-- Whether a pattern may hold the atom. -/
def isAllowed (m : Modes) : Atom → Bool
  | literal c isByte => if m.isUnicode then !m.ignoresCase else !isByte || c.toNat < 0x80
  | anything => m.isUnicode
  | anchor => true
  | wordEdge => !m.isUnicode
  | charClass isNegated => !m.isUnicode && !isNegated

/-- Whether a set of characters may hold the atom. -/
def isAllowedInSet (m : Modes) : Atom → Bool
  | literal c _ => if m.isUnicode then !m.ignoresCase else c.toNat < 0x80
  | charClass isNegated => !m.isUnicode && !isNegated
  | _ => false

/-- Whether the atoms are the ends of a range in a set of characters. -/
def isRange (m : Modes) : Atom → Atom → Bool
  | literal c b, literal d e =>
    (literal c b).isAllowedInSet m && (literal d e).isAllowedInSet m && c.toNat ≤ d.toNat
  | _, _ => false

end Atom

/-- The letters that stand for control characters behind a backslash. -/
def controls : List (Char × Char) :=
  [('a', '\x07'), ('f', '\x0c'), ('t', '\t'), ('n', '\n'), ('r', '\r'), ('v', '\x0b')]

/-- The atom that a character behind a backslash stands for; punctuation stands for
itself there. -/
def escaped? (c : Char) : Option Atom :=
  match controls.lookup c with
  | some control => some (.literal control false)
  | none =>
    if c ∈ ['d', 's', 'w'] then some (.charClass false)
    else if c ∈ ['D', 'S', 'W'] then some (.charClass true)
    else if c ∈ ['A', 'z'] then some .anchor
    else if c ∈ ['b', 'B', '<', '>'] then some .wordEdge
    else if c.toNat < 0x80 && !c.isAlphanum then some (.literal c false)
    else none

/-- The number of hexadecimal digits behind a backslash and one of these letters. -/
def codeLengths : List (Char × Nat) := [('x', 2), ('u', 4), ('U', 8)]

/-- The value of a hexadecimal digit. -/
def hexValue? (c : Char) : Option Nat :=
  if c.isDigit then some (c.toNat - '0'.toNat)
  else if 'a' ≤ c && c ≤ 'f' then some (c.toNat - 'a'.toNat + 10)
  else if 'A' ≤ c && c ≤ 'F' then some (c.toNat - 'A'.toNat + 10)
  else none

/-- Reads so many hexadecimal digits, behind those of the value `high`. -/
def readCode? (m : Modes) (high : Nat) : Nat → List Char → Option (Nat × List Char)
  | 0, cs => some (high, cs)
  | n + 1, cs =>
    match m.skip cs with
    | [] => none
    | c :: rest => (hexValue? c).bind fun d => readCode? m (16 * high + d) n rest

/-- The character of a code point. -/
def charOfCode? (n : Nat) : Option Char :=
  if n < 0xd800 || (0xdfff < n && n < 0x110000) then some (Char.ofNat n) else none

/-- Reads what stands behind a backslash. -/
def readEscaped? (m : Modes) : List Char → Option (Atom × List Char)
  | [] => none
  | c :: cs =>
    match codeLengths.lookup c with
    | some length =>
      (readCode? m 0 length cs).bind fun (code, rest) =>
        (charOfCode? code).map fun d => (.literal d (c = 'x'), rest)
    | none => (escaped? c).map (·, cs)

/-- Reads an atom outside of sets; brackets, bars and signs of repetition are none. -/
def readAtom? (m : Modes) (c : Char) (cs : List Char) : Option (Atom × List Char) :=
  if c = '\\' then readEscaped? m cs
  else if c = '.' then some (.anything, cs)
  else if c = '^' || c = '$' then some (.anchor, cs)
  else some (.literal c false, cs)

end InjectionPlan.Pattern
