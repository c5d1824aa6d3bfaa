import InjectionPlan.Log.Filter

/-! # Log settings

    Which events are written, and in which format.  The settings can be told to
    let an environment variable replace their filter; if that variable is not set,
    or is malformed, their own filter stays.  They cannot be installed at all if an
    entry of the variable is torn.
-/

namespace InjectionPlan

/-- How log lines look. -/
inductive LogFormat
  /-- One document for each event. -/
  | json
  /-- Several lines for each event. -/
  | pretty
  /-- One line for each event. -/
  | compact
deriving DecidableEq, Repr

/-- The format as it is shown. -/
def LogFormat.name : LogFormat → String
  | json => "Json"
  | pretty => "Pretty"
  | compact => "Compact"

/-- What is logged, and how. -/
structure LogSettings where
  /-- The least severe level that is written. -/
  level : Level
  /-- How log lines look. -/
  format : LogFormat
  /-- What the targets of written events start with, if that matters. -/
  target : Option String
  /-- Whether the environment may replace the filter. -/
  readsEnvironment : Bool
  /-- Whether lines show the source file. -/
  showsFile : Bool
  /-- Whether lines show the line of the source file. -/
  showsLine : Bool
  /-- Whether lines show the thread. -/
  showsThread : Bool
deriving DecidableEq, Repr

namespace LogSettings

/-- The settings to start from. -/
def default : LogSettings := ⟨.debug, .json, none, false, false, false, false⟩

/-- One choice on the way to the wanted settings. -/
inductive Choice
  /-- Write events up to this level. -/
  | level (l : Level)
  /-- Write lines of this format. -/
  | format (f : LogFormat)
  /-- Write only events whose target starts with this text. -/
  | target (t : String)
  /-- Let the environment replace the filter. -/
  | readEnvironment
  /-- Show the source file. -/
  | showFile
  /-- Show the line of the source file. -/
  | showLine
  /-- Show the thread. -/
  | showThread
deriving DecidableEq, Repr

/-- The settings after a choice. -/
def choose (s : LogSettings) : Choice → LogSettings
  | .level l => { s with level := l }
  | .format f => { s with format := f }
  | .target t => { s with target := some t }
  | .readEnvironment => { s with readsEnvironment := true }
  | .showFile => { s with showsFile := true }
  | .showLine => { s with showsLine := true }
  | .showThread => { s with showsThread := true }

/-- The settings after a run of choices. -/
def chooseAll (s : LogSettings) (cs : List Choice) : LogSettings := cs.foldl choose s

/-- The settings that write the events of passes only. -/
def passesOnly : LogSettings := default.chooseAll [.target Event.target, .readEnvironment]

/-- The level with a capital letter. -/
def levelWord : Level → String
  | .error => "Error"
  | .warn => "Warn"
  | .info => "Info"
  | .debug => "Debug"
  | .trace => "Trace"

/-- A truth value in small letters. -/
def flagWord (b : Bool) : String := if b then "true" else "false"

/-- The settings as they are shown to a developer. -/
def text (s : LogSettings) : String :=
  "LoggingBuilder \x7b level: Level(" ++ levelWord s.level ++ "), format: " ++ s.format.name ++
    ", target: " ++ Text.quotedOption s.target ++ ", respect_env: " ++ flagWord s.readsEnvironment ++
    ", with_file: " ++ flagWord s.showsFile ++ ", with_line_number: " ++ flagWord s.showsLine ++
    ", with_thread_ids: " ++ flagWord s.showsThread ++ " \x7d"

/-- The settings' own filter. -/
def ownFilter (s : LogSettings) : Filter := [⟨s.target.getD "", .everything, some s.level⟩]

/-- The filter in force when the environment variable has the given value, if the
settings can be installed then. -/
def filter? (s : LogSettings) (environment : Option String) : Option Filter :=
  match environment with
  | none => some s.ownFilter
  | some text =>
    if s.readsEnvironment then
      match Filter.read text with
      | .ok f => some f
      | .error .malformed => some s.ownFilter
      | .error .torn => none
    else some s.ownFilter

end LogSettings

end InjectionPlan
