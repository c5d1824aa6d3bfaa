import InjectionPlan.Log.Entry

/-! # Log filters

    A filter is a list of directives; an event is written if the directive that
    decides for it admits its level.  A filter is read from a list of entries
    between commas.  Empty entries do not count, and if there are no others, only
    errors are written.  The first entry that cannot be read spoils the whole list.

    Like its directives, a filter has the form that the logging facility gives it.
    It selects which of the events of a pass are printed.  The pass itself, its plan
    and its events come about without it, and all results are about these.
-/

namespace InjectionPlan

/-- A list of directives. -/
abbrev Filter := List Directive

namespace Filter

/-- The parts of a text between commas. -/
def entries : List Char → List (List Char)
  | [] => [[]]
  | c :: cs =>
    match entries cs with
    | [] => [[c]]
    | e :: es => if c = ',' then [] :: e :: es else (c :: e) :: es

/-- Reads a filter. -/
def read (s : String) : Except EntryFault Filter :=
  match (entries s.toList).filter (!·.isEmpty) with
  | [] => .ok [⟨"", .everything, some .error⟩]
  | es => es.mapM Directive.read

/-- The directive that decides for an event. -/
def directiveFor? (f : Filter) (e : Event) : Option Directive :=
  (f.filter (·.appliesTo e)).foldl
    (fun best d =>
      match best with
      | some b => some (if d.overrules b then d else b)
      | none => some d)
    none

/-- Whether an event is written. -/
def admits (f : Filter) (e : Event) : Bool :=
  (f.directiveFor? e).any (·.limit.admits e.level)

end Filter

end InjectionPlan
