import InjectionPlan.Pattern.Reading
import InjectionPlan.Text.Numeral

/-! # Field values in directives

    A directive may ask for a value of a field: a number, a truth value or else a
    pattern for its text.  Truth values and numbers are well-formed patterns too, but
    for numbers with a plus sign, so only these need to be told apart.

    Which values there are is up to the logging facility that the program runs with.
    The program only has to know whether a value can be read, and nothing but the
    reading of filter entries depends on that.
-/

namespace InjectionPlan.Log

/-- Whether the characters are the end of a number: nothing, or an exponent. -/
def endsNumber : List Char → Bool
  | [] => true
  | 'e' :: '-' :: ds | 'E' :: '-' :: ds => Text.isDigits ds
  | 'e' :: ds | 'E' :: ds => Text.isDigits (Text.unsigned ds)
  | _ => false

/-- Whether the characters are a number without a sign. -/
def isNumber (cs : List Char) : Bool :=
  let whole := cs.takeWhile Char.isDigit
  match cs.drop whole.length with
  | '.' :: rest =>
    (!whole.isEmpty || rest.head?.any Char.isDigit) && endsNumber (rest.dropWhile Char.isDigit)
  | rest =>
    (!whole.isEmpty && endsNumber rest) ||
      String.ofList (cs.map Char.toLower) ∈ ["inf", "infinity", "nan"]

/-- Whether a directive may ask for the value. -/
def isWantedValue : List Char → Bool
  | '+' :: cs => isNumber cs
  | cs => Pattern.isWellFormed cs

end InjectionPlan.Log
