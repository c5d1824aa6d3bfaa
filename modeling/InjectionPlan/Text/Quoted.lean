import InjectionPlan.Text.Extending
import InjectionPlan.Text.Ignorable
import InjectionPlan.Text.Printable

/-! # Quoted texts

    Log records show a text between double quotes.  Inside the quotes
    - the quote and the backslash follow a backslash,
    - the null character, tab, line feed and carriage return have a letter of
      their own after the backslash,
    - a character that does not show by itself, because it is unprintable
      (`isPrintable`), leaves no trace (`isIgnorable`) or would join the one before
      it (`isExtending`), is written by its code point in hexadecimal,
    - every other character, the apostrophe among them, stands for itself.

    The halfwidth voicing marks extend the character before them but take a place
    of their own, so they stand for themselves too.
-/

namespace InjectionPlan.Text

/-- How a character that does not stand for itself in a quoted text is written. -/
inductive Escape
  /-- Backslash and this letter. -/
  | letter (c : Char)
  /-- Backslash, `u` and the code point in braces. -/
  | codePoint
deriving DecidableEq, Repr

/-- Whether the character is one of the two halfwidth voicing marks. -/
def isVoicingMark (c : Char) : Bool := c = '\uff9e' || c = '\uff9f'

/-- Whether the character shows by itself wherever it stands. -/
def showsAlone (c : Char) : Bool :=
  isPrintable c && !isIgnorable c && (!isExtending c || isVoicingMark c)

/-- The escape that a character needs, if any. -/
def escape? (c : Char) : Option Escape :=
  if c = '"' then some (.letter '"')
  else if c = '\\' then some (.letter '\\')
  else if c = '\x00' then some (.letter '0')
  else if c = '\t' then some (.letter 't')
  else if c = '\n' then some (.letter 'n')
  else if c = '\r' then some (.letter 'r')
  else if showsAlone c then none
  else some .codePoint

/-- The written form of one character. -/
def quotedChar (c : Char) : List Char :=
  match escape? c with
  | none => [c]
  | some (.letter l) => ['\\', l]
  | some .codePoint => ['\\', 'u', '\x7b'] ++ Nat.toDigits 16 c.toNat ++ ['\x7d']

/-- The text between double quotes, escaped. -/
def quoted (s : String) : String :=
  String.ofList (['"'] ++ s.toList.flatMap quotedChar ++ ['"'])

/-- An optional text: `None`, or `Some` and the quoted text in parentheses. -/
def quotedOption : Option String → String
  | none => "None"
  | some s => "Some(" ++ quoted s ++ ")"

end InjectionPlan.Text
