import InjectionPlan.Declaration
import InjectionPlan.Diagnostic.Finding

/-! # Diagnostics

    A diagnostic says what is wrong and where.  A report collects them in the
    order in which they were made.
-/

namespace InjectionPlan

/-- What a diagnostic points at. -/
structure Location where
  /-- The qualified name of the type. -/
  typeName : String
  /-- The method, if it is one. -/
  member : Option String
  /-- The place in the source, if it is known. -/
  span : Option SourcePlace
deriving DecidableEq, Repr

namespace Location

/-- The place of a type. -/
def ofType (d : Declaration) : Location := ⟨d.qualifiedName, none, d.span⟩

/-- The place of a method: its own if it is known, else that of its type. -/
def ofMethod (d : Declaration) (m : Method) : Location :=
  ⟨d.qualifiedName, some m.name, m.span.or d.span⟩

/-- The type, the method after a dot, and the place in parentheses. -/
def text (l : Location) : String :=
  l.typeName ++ (l.member.elim "" ("." ++ ·)) ++
    (l.span.elim "" fun s => " (" ++ s.text ++ ")")

end Location

/-- Something that is wrong, and where. -/
structure Diagnostic where
  /-- What is wrong. -/
  finding : Finding
  /-- How serious it is. -/
  severity : Severity
  /-- What the user is told. -/
  message : String
  /-- Where it is. -/
  location : Location
deriving DecidableEq, Repr

namespace Diagnostic

/-- The diagnostic of a finding, with the arguments put into its template. -/
def make (f : Finding) (location : Location) (args : List String) : Diagnostic :=
  ⟨f, f.severity, f.template.fill args, location⟩

/-- Whether it is an error. -/
def isError (d : Diagnostic) : Bool := d.severity == .error

/-- The diagnostic on one line. -/
def text (d : Diagnostic) : String :=
  d.severity.name ++ "[" ++ d.finding.id ++ "] " ++ d.finding.title ++ ": " ++ d.message ++ " at " ++
    d.location.text

end Diagnostic

/-- Diagnostics in the order in which they were made. -/
structure Report where
  /-- The diagnostics. -/
  records : List Diagnostic
deriving DecidableEq, Repr

namespace Report

/-- A report of nothing. -/
def empty : Report := ⟨[]⟩

/-- The report with one more diagnostic. -/
def push (r : Report) (d : Diagnostic) : Report := ⟨r.records ++ [d]⟩

/-- The report with more diagnostics. -/
def append (r : Report) (ds : List Diagnostic) : Report := ⟨r.records ++ ds⟩

/-- The number of diagnostics. -/
def size (r : Report) : Nat := r.records.length

/-- Whether one of them ends the pass. -/
def stopsPass (r : Report) : Bool := r.records.any (·.finding.isFatal)

/-- The errors, in order. -/
def errors (r : Report) : List Diagnostic := r.records.filter (·.severity == .error)

/-- The warnings, in order. -/
def warnings (r : Report) : List Diagnostic := r.records.filter (·.severity == .warning)

/-- The diagnostics about a finding, in order. -/
def about (r : Report) (f : Finding) : List Diagnostic := r.records.filter (·.finding == f)

end Report

end InjectionPlan
