import InjectionPlan.Text.Blank
import InjectionPlan.Text.Numeral

/-! # Lifetimes

    How long the container keeps an instance of a registered service.  A
    lifetime has a name and a numeric tag, and can be read from either.
-/

namespace InjectionPlan

/-- How long an instance is kept. -/
inductive Lifetime
  /-- A new instance each time one is asked for. -/
  | transient
  /-- One instance in each scope. -/
  | perScope
  /-- One instance for all. -/
  | singleton
deriving DecidableEq, Repr, Inhabited

/-- Why a text or a tag is no lifetime. -/
inductive LifetimeError
  /-- The trimmed text is neither a name nor a numeral of one byte. -/
  | unknown (text : String)
  /-- The tag belongs to no lifetime. -/
  | tagOutOfRange (tag : UInt8)
deriving DecidableEq, Repr

/-- What the user is told. -/
def LifetimeError.message : LifetimeError → String
  | unknown text => "Unknown lifetime: " ++ text
  | tagOutOfRange tag => "Invalid lifetime tag: " ++ toString tag.toNat

namespace Lifetime

/-- All lifetimes in the order of their tags. -/
def all : List Lifetime := [transient, perScope, singleton]

/-- The name of a lifetime. -/
def name : Lifetime → String
  | transient => "Transient"
  | perScope => "Scoped"
  | singleton => "Singleton"

/-- The numeric tag of a lifetime. -/
def tag : Lifetime → UInt8
  | transient => 0
  | perScope => 1
  | singleton => 2

/-- The lifetime with exactly this name. -/
def ofName? (s : String) : Option Lifetime := all.find? (·.name == s)

/-- The lifetime with this tag. -/
def ofTag (tag : UInt8) : Except LifetimeError Lifetime :=
  match all[tag.toNat]? with
  | some l => .ok l
  | none => .error (.tagOutOfRange tag)

/-- Reads a name, or the numeral of a tag, with blanks around it. -/
def parse (s : String) : Except LifetimeError Lifetime :=
  let t := Text.trim s
  match ofName? t with
  | some l => .ok l
  | none =>
    match Text.numeral? 255 t.toList with
    | some n => ofTag (UInt8.ofNat n)
    | none => .error (.unknown t)

theorem ofName?_name (l : Lifetime) : ofName? l.name = some l := by
  cases l <;> cbv

theorem ofTag_tag (l : Lifetime) : ofTag l.tag = .ok l := by
  cases l <;> cbv

end Lifetime

end InjectionPlan
