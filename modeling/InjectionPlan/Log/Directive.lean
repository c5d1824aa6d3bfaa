import InjectionPlan.Log.Event
import InjectionPlan.Text.Numeral

/-! # Log directives

    A directive sets a limit for all targets that start with a given text, the
    empty text included: events up to that level are written.  It may be for events
    with a certain field only, or for what happens within certain spans.  Passes
    are logged outside of spans, so a directive of the latter kind decides nothing
    for them.

    Of the directives that apply to an event, the one with the longest text decides.
    Of those with the same text, one for a field goes before one for all events, the
    greater name of two fields goes first, and a later directive goes before an
    earlier one that is for the same events.

    These rules are those of the logging facility that the program runs with.  They
    belong to the outermost layer of the program, which prints the log: no plan
    depends on them, and no result here is about them.
-/

namespace InjectionPlan

/-- The least severe level that is written; nothing is written without one. -/
abbrev Limit := Option Level

/-- Whether events of a level are written. -/
def Limit.admits (limit : Limit) (l : Level) : Bool :=
  limit.any fun most => l.rank ≤ most.rank

/-- The words for limits. -/
def Limit.words : List (String × Limit) :=
  [("off", none), ("error", some .error), ("warn", some .warn), ("info", some .info),
    ("debug", some .debug), ("trace", some .trace)]

/-- Reads a limit: one of the words in ASCII letters of either case, or its
position among them. -/
def Limit.read? (cs : List Char) : Option Limit :=
  match Limit.words.lookup (String.ofList (cs.map Char.toLower)) with
  | some limit => some limit
  | none => (Text.numeral? 5 cs).bind fun n => Limit.words[n]?.map (·.2)

/-- The events that a directive is for, whatever their target. -/
inductive Scope
  /-- All events. -/
  | everything
  /-- The events with a field of this name. -/
  | field (name : String)
  /-- The events within certain spans. -/
  | spans
deriving DecidableEq, Repr

namespace Scope

/-- Whether an event outside of spans is in the scope. -/
def covers : Scope → Event → Bool
  | everything, _ => true
  | field name, e => e.hasField name
  | spans, _ => false

/-- Whether the scope `s` of a later directive goes before `earlier`. -/
def overrules : Scope → Scope → Bool
  | field name, field earlier => decide (earlier ≤ name)
  | _, field _ => false
  | _, _ => true

end Scope

/-- A limit for some events. -/
structure Directive where
  /-- What the targets of the events start with. -/
  target : String
  /-- Which of these events it is for. -/
  scope : Scope
  /-- What is written of them. -/
  limit : Limit
deriving DecidableEq, Repr

namespace Directive

/-- Whether the directive applies to an event. -/
def appliesTo (d : Directive) (e : Event) : Bool :=
  d.target.toList.isPrefixOf Event.target.toList && d.scope.covers e

/-- Whether `d` decides before `earlier` where both apply. -/
def overrules (d earlier : Directive) : Bool :=
  if d.target.length = earlier.target.length then d.scope.overrules earlier.scope
  else decide (earlier.target.length < d.target.length)

end Directive

end InjectionPlan
