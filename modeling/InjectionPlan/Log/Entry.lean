import InjectionPlan.Log.Directive
import InjectionPlan.Log.WantedValue
import InjectionPlan.Text.Alphanumeric
import InjectionPlan.Text.Blank
import InjectionPlan.Text.Stretch

/-! # Filter entries

    A directive is read from one of these entries:
    - a level sets the limit for all targets;
    - any other word sets no limit for the targets that start with it;
    - a word, an equals sign and a level set the limit for the targets that start
      with the word, and without a level there is no limit.
    Square brackets behind the word, or without one, narrow the directive to the
    spans of a name.  Braces inside the brackets narrow it to a field, or to a field
    with a value; only a field without a value and a span makes a difference outside
    of spans.

    The places of the parts are found in the entry without the blanks around it, but
    the parts are what stands at these places in the entry as it is.  So blanks at
    the end belong to the last part, and blanks at the start shift all parts.  A
    shifted part may start or end within a character, and then the entry is torn.

    An entry is read from its start to its end, and the first fault counts.

    The syntax is that of the logging facility that the program runs with, and it is
    followed here to the letter so that the program reads the filters that are written
    for it.  Only the settings of the log read entries: no plan depends on this
    module, and no result is about it.
-/

namespace InjectionPlan

open Text (Stretch)

/-- Why an entry cannot be read. -/
inductive EntryFault
  /-- It is not of the form of an entry. -/
  | malformed
  /-- One of its parts starts or ends within a character. -/
  | torn
deriving DecidableEq, Repr

namespace Directive

/-- Whether an entry may start with the character, if not with a bracket. -/
def opensWord (c : Char) : Bool := c ∈ ['-', ':', '_'] || Text.isAlphanumeric c

/-- The part of an entry in a stretch of it. -/
def part (entry : List Char) (s : Stretch) : Except EntryFault (List Char) :=
  match s.cut? entry with
  | some cs => .ok cs
  | none => .error .torn

/-- Reads the limit at the end of an entry, from a place on. -/
def readLimit (entry : List Char) (place : Nat) : Except EntryFault Limit :=
  match Text.splitBytes? place entry with
  | none => .error .torn
  | some (_, []) => .ok (some .trace)
  | some (_, level) =>
    match Limit.read? level with
    | some limit => .ok limit
    | none => .error .malformed

/-- The place of the limit in what follows the brackets, from a place on: behind an
equals sign, or nowhere. -/
def limitPlace (place : Nat) : List Char → Except EntryFault (Option Nat)
  | [] => .ok none
  | c :: _ => if c = '=' then .ok (some (place + 1)) else .error .malformed

/-- The scope that a field sets.  With the name of a span or a value of its own it
only matters within spans. -/
def fieldScope (span field : List Char) : Except EntryFault Scope :=
  let name := field.takeWhile (· ≠ '=')
  if field.isEmpty then .error .malformed
  else
    match field.drop name.length with
    | [] => .ok (if span.isEmpty then .field (String.ofList name) else .spans)
    | _ :: value =>
      if Log.isWantedValue (value.takeWhile (· ≠ '=')) then .ok .spans else .error .malformed

/-- Reads brackets in an entry: `text` is what follows the opening bracket, from a
place on.  Gives the place of the limit too. -/
def readBrackets (entry : List Char) (place : Nat) (text : List Char) :
    Except EntryFault (Scope × Option Nat) := do
  let span := text.takeWhile fun c => c ≠ ']' && c ≠ '\x7b'
  let spanEnd := place + Text.byteLength span
  match text.drop span.length with
  | [] => .error .malformed
  | c :: rest =>
    let spanPart ← part entry ⟨place, spanEnd⟩
    if c = ']' then return (.spans, ← limitPlace (spanEnd + 1) rest)
    else
      let field := rest.takeWhile (· ≠ '\x7d')
      let fieldEnd := spanEnd + 1 + Text.byteLength field
      match rest.drop field.length with
      | [] => .error .malformed
      | _ :: rest =>
        let scope ← fieldScope spanPart (← part entry ⟨spanEnd + 1, fieldEnd⟩)
        match rest with
        | ']' :: rest => return (scope, ← limitPlace (fieldEnd + 2) rest)
        | _ => .error .malformed

/-- The directive of an entry that is a single word: a limit or a target. -/
def ofWord (entry : List Char) : Directive :=
  match Limit.read? entry with
  | some limit => ⟨"", .everything, limit⟩
  | none => ⟨String.ofList entry, .everything, some .trace⟩

/-- Whether an entry may have this word before an equals sign, a bracket or its end. -/
def allowsWord (word : List Char) (next : Option Char) : Bool :=
  match word with
  | [] => next = some '['
  | c :: _ => opensWord c

/-- Reads the directive of an entry. -/
def read (entry : List Char) : Except EntryFault Directive :=
  let text := Text.trimmed entry
  let word := text.takeWhile fun c => c ≠ '=' && c ≠ '['
  let wordEnd := Text.byteLength word
  let rest := text.drop word.length
  if !allowsWord word rest.head? then .error .malformed
  else
    match rest with
    | [] => .ok (ofWord entry)
    | c :: rest => do
      let target ← part entry ⟨0, wordEnd⟩
      if c = '=' then return ⟨String.ofList target, .everything, ← readLimit entry (wordEnd + 1)⟩
      else
        let (scope, place) ← readBrackets entry (wordEnd + 1) rest
        match place with
        | none => return ⟨String.ofList target, scope, some .trace⟩
        | some place => return ⟨String.ofList target, scope, ← readLimit entry place⟩

end Directive

end InjectionPlan
