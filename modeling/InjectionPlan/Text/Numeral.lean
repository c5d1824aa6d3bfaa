/-! # Decimal numerals of bounded value

    A numeral is an optional plus sign and a non-empty run of ASCII digits.
    Leading zeros are allowed and no other character is.  A numeral is read only
    if its value does not exceed a bound.
-/

namespace InjectionPlan.Text

/-- The value of a run of digits, the most significant first. -/
def digitsValue (ds : List Char) : Nat :=
  ds.foldl (fun n d => 10 * n + (d.toNat - '0'.toNat)) 0

/-- The characters after an optional plus sign. -/
def unsigned : List Char → List Char
  | '+' :: ds => ds
  | ds => ds

/-- Whether the characters are a non-empty run of ASCII digits. -/
def isDigits (ds : List Char) : Bool :=
  !ds.isEmpty && ds.all (·.isDigit)

/-- The value of a numeral that does not exceed `bound`. -/
def numeral? (bound : Nat) (cs : List Char) : Option Nat :=
  let ds := unsigned cs
  if isDigits ds && digitsValue ds ≤ bound then some (digitsValue ds) else none

theorem numeral?_eq_some_iff {bound n : Nat} {cs : List Char} :
    numeral? bound cs = some n ↔
      isDigits (unsigned cs) = true ∧ digitsValue (unsigned cs) = n ∧ n ≤ bound := by
  simp only [numeral?]
  split
  · rename_i h
    simp only [Bool.and_eq_true, decide_eq_true_eq] at h
    constructor
    · intro e
      cases e
      exact ⟨h.1, rfl, h.2⟩
    · rintro ⟨_, rfl, _⟩
      rfl
  · rename_i h
    simp only [Bool.and_eq_true, decide_eq_true_eq, not_and] at h
    constructor
    · intro e
      cases e
    · rintro ⟨hd, rfl, hn⟩
      exact absurd hn (h hd)

end InjectionPlan.Text
