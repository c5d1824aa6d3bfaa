/-! # Reading values from bytes

    A trial is drawn from a string of bytes.  A source is what is left of the
    string; reading past its end gives zero bytes, so every string of bytes has
    values of every kind in it.
-/

namespace InjectionPlan.Trial

/-- The bytes that are left. -/
abbrev Source := List UInt8

/-- Reads a value from the front of a source and leaves the rest. -/
abbrev Draw (α : Type) := StateM Source α

/-- One byte. -/
def byte : Draw UInt8 := fun s =>
  match s with
  | [] => (0, [])
  | b :: s => (b, s)

/-- A truth value: true for an odd byte. -/
def flag : Draw Bool := do return (← byte) % 2 == 1

/-- A number of four bytes, the least significant first. -/
def word : Draw Nat := do
  let b0 ← byte
  let b1 ← byte
  let b2 ← byte
  let b3 ← byte
  return b0.toNat + 0x100 * b1.toNat + 0x10000 * b2.toNat + 0x1000000 * b3.toNat

/-- A choice among `count`: a number of four bytes, scaled down. -/
def choice (count : Nat) : Draw Nat := do return (← word) * count / 0x100000000

/-- A value that may be absent: a truth value says whether it is there. -/
def optional {α : Type} (draw : Draw α) : Draw (Option α) := do
  if ← flag then return some (← draw) else return none

/-- A list of at most `most` values, each after a truth value that says that it is
there. -/
def listUpTo {α : Type} (draw : Draw α) : Nat → Draw (List α)
  | 0 => return []
  | most + 1 => do
    if ← flag then
      let a ← draw
      let as ← listUpTo draw most
      return a :: as
    else return []

/-- A list of values.  Each takes an odd byte at least, so there are no more of
them than bytes are left. -/
def list {α : Type} (draw : Draw α) : Draw (List α) := do listUpTo draw (← get).length

end InjectionPlan.Trial
