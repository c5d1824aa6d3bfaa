import InjectionPlan.Log.Settings
import InjectionPlan.Plan
import InjectionPlan.Stored.Document

/-! # Log lines

    The lines that are written for events.
    - The document format writes one document for each event.
    - The compact format writes one line: level, thread, target, place, message and
      the fields as `name=value`.
    - The pretty format writes three: level, target, message and the fields as
      `name: value`; then place and thread; then an empty line.

    Places in the program's own source and thread numbers carry nothing that is
    told of a module, so they are shown by stand-ins: `FILE`, `LINE`, the first
    thread, and the truth value true in documents.  A text with line breaks in it
    takes several lines.
-/

namespace InjectionPlan

/-- A line of the log. -/
inductive LogLine
  /-- A line of text. -/
  | text (s : String)
  /-- A document. -/
  | record (d : Document)
deriving Repr

namespace LogLine

/-- The parts of a text between line breaks. -/
def parts : List Char → List (List Char)
  | [] => [[]]
  | c :: cs =>
    match parts cs with
    | [] => [[c]]
    | p :: ps => if c = '\n' then [] :: p :: ps else (c :: p) :: ps

/-- The lines that a text takes. -/
def ofText (s : String) : List LogLine := (parts s.toList).map fun p => text (String.ofList p)

end LogLine

namespace FieldValue

/-- The value in a line of text. -/
def text : FieldValue → String
  | quoted s => Text.quoted s
  | bare s => s
  | count n => toString n
  | flag b => LogSettings.flagWord b

/-- The value in a document. -/
def toDocument : FieldValue → Document
  | quoted s => .text s
  | bare s => .text s
  | count n => .integer n
  | flag b => .bool b

end FieldValue

namespace LogSettings

/-- The level, filled up on the left to five characters. -/
def levelColumn (l : Level) : String :=
  String.ofList (List.replicate (5 - l.name.length) ' ') ++ l.name

/-- The document for an event. -/
def document (s : LogSettings) (e : Event) : Document :=
  .object <|
    [("level", .text e.level.name), ("target", .text Event.target),
      ("fields", .object (("message", .text e.message) ::
        e.fields.map fun (name, value) => (name, value.toDocument)))] ++
    (if s.showsFile then [("filename", .bool true)] else []) ++
    (if s.showsLine then [("line_number", .bool true)] else []) ++
    (if s.showsThread then [("threadId", .bool true)] else [])

/-- Target and place in the compact format.  The line without the file follows the
target at once. -/
def compactPlace (s : LogSettings) : String :=
  Event.target ++ ":" ++
    match s.showsFile, s.showsLine with
    | true, true => " FILE:LINE:"
    | true, false => " FILE:"
    | false, true => "LINE:"
    | false, false => ""

/-- The compact text for an event. -/
def compactText (s : LogSettings) (e : Event) : String :=
  levelColumn e.level ++ " " ++ (if s.showsThread then "ThreadId(01) " else "") ++
    s.compactPlace ++ " " ++ e.message ++
    String.join (e.fields.map fun (name, value) => " " ++ name ++ "=" ++ value.text)

/-- The pretty text for an event; the place is always shown. -/
def prettyText (s : LogSettings) (e : Event) : String :=
  "  " ++ levelColumn e.level ++ " " ++ Event.target ++ ": " ++ e.message ++
    String.join (e.fields.map fun (name, value) => ", " ++ name ++ ": " ++ value.text) ++
    "\n    at FILE:LINE" ++ (if s.showsThread then " on ThreadId(1)" else "") ++ "\n"

/-- The lines for an event. -/
def linesOf (s : LogSettings) (e : Event) : List LogLine :=
  match s.format with
  | .json => [.record (s.document e)]
  | .compact => LogLine.ofText (s.compactText e)
  | .pretty => LogLine.ofText (s.prettyText e)

/-- The lines that are written for a run of events under a filter. -/
def lines (s : LogSettings) (f : Filter) (es : List Event) : List LogLine :=
  (es.filter f.admits).flatMap s.linesOf

/-- The lines that are written for a run of events after these installations, when
the environment variable has the given value.  The first installation counts, and
without one nothing is written.  If one of them fails, there is no run at all. -/
def installedLines (installed : List LogSettings) (environment : Option String)
    (es : List Event) : List LogLine :=
  match installed, installed.mapM (·.filter? environment) with
  | s :: _, some (f :: _) => s.lines f es
  | _, _ => []

end LogSettings

end InjectionPlan
