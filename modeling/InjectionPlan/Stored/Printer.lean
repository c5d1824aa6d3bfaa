import InjectionPlan.Stored.Document

/-! # Printed documents

    A document is printed on one line, without blanks.  In a text the quote, the
    backslash and the control characters are escaped.
-/

namespace InjectionPlan.Document

/-- A hexadecimal numeral of four digits. -/
def fourDigits (n : Nat) : List Char :=
  let ds := Nat.toDigits 16 n
  List.replicate (4 - ds.length) '0' ++ ds

/-- The printed form of a character of a text. -/
def printedChar (c : Char) : List Char :=
  if c = '"' then ['\\', '"']
  else if c = '\\' then ['\\', '\\']
  else if c = '\x08' then ['\\', 'b']
  else if c = '\x0c' then ['\\', 'f']
  else if c = '\n' then ['\\', 'n']
  else if c = '\r' then ['\\', 'r']
  else if c = '\t' then ['\\', 't']
  else if c.toNat < 0x20 then ['\\', 'u'] ++ fourDigits c.toNat
  else [c]

/-- The printed form of a text. -/
def printedText (s : String) : String :=
  String.ofList (['"'] ++ s.toList.flatMap printedChar ++ ['"'])

/-- The printed form of a number with a fraction. -/
def printedDecimal (mantissa : Int) (places : Nat) : String :=
  let ds := Nat.toDigits 10 mantissa.natAbs
  let ds := List.replicate (places + 1 - ds.length) '0' ++ ds
  let whole := ds.take (ds.length - places)
  let fraction := if places = 0 then ['0'] else ds.drop (ds.length - places)
  (if mantissa < 0 then "-" else "") ++ String.ofList (whole ++ ['.'] ++ fraction)

mutual

/-- The printed form of a document. -/
def print : Document → String
  | null => "null"
  | bool b => if b then "true" else "false"
  | integer n => toString n
  | decimal m p => printedDecimal m p
  | text s => printedText s
  | list ds => "[" ++ printItems ds ++ "]"
  | object fs => "\x7b" ++ printFields fs ++ "\x7d"

/-- The printed items of a list, with commas between them. -/
def printItems : List Document → String
  | [] => ""
  | [d] => print d
  | d :: e :: ds => print d ++ "," ++ printItems (e :: ds)

/-- The printed fields of an object, with commas between them. -/
def printFields : List (String × Document) → String
  | [] => ""
  | [(name, d)] => printedText name ++ ":" ++ print d
  | (name, d) :: f :: fs => printedText name ++ ":" ++ print d ++ "," ++ printFields (f :: fs)

end

end InjectionPlan.Document
