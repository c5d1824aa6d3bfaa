import InjectionPlan.Pattern.CharSet
import InjectionPlan.Text.Alphanumeric

/-! # Well-formed patterns

    A pattern is a sequence of atoms, sets of characters and groups.  A bar parts it
    into branches.  Behind a part, `*`, `+` and `?` repeat it; a question mark at
    once behind one of these belongs to it.  A parenthesis opens a group, which may
    have a name of its own or modes of its own; modes may also be turned on or off
    for the rest of a group.  A count in braces is not known here.

    A pattern is well formed if it can be read in this way, all its atoms are
    allowed, and it does not nest too deep.

    It is never matched against anything here.  A log filter with a malformed pattern
    is refused by the logging facility that the program runs with, and to tell when
    this happens is all that the patterns are read for.  No plan depends on it, and no
    result is about it.
-/

namespace InjectionPlan.Pattern

/-- A part of a pattern. -/
structure Part where
  /-- How deep it nests. -/
  depth : Nat
  /-- Whether it can be repeated, which only a change of modes cannot. -/
  isRepeatable : Bool
deriving DecidableEq, Repr

/-- A group that is not closed yet. -/
structure OpenGroup where
  /-- How deep the finished branches nest. -/
  branches : List Nat
  /-- The parts of the branch that is read, the last one first. -/
  parts : List Part
deriving DecidableEq, Repr

namespace OpenGroup

/-- A group behind its opening parenthesis. -/
def opened : OpenGroup := ⟨[], []⟩

/-- How deep the contents of the group nest. -/
def depth (g : OpenGroup) : Nat := nesting (nesting (g.parts.map (·.depth)) :: g.branches)

/-- The group with one more part. -/
def add (g : OpenGroup) (p : Part) : OpenGroup := { g with parts := p :: g.parts }

/-- The group behind a bar. -/
def branch (g : OpenGroup) : OpenGroup := ⟨nesting (g.parts.map (·.depth)) :: g.branches, []⟩

/-- The group with its last part repeated. -/
def repeatLast? (g : OpenGroup) : Option OpenGroup :=
  match g.parts with
  | [] => none
  | p :: ps => if p.isRepeatable then some { g with parts := ⟨1 + p.depth, true⟩ :: ps } else none

end OpenGroup

/-- How far a pattern is read. -/
structure Reading where
  /-- The modes in force. -/
  modes : Modes
  /-- The names of groups so far. -/
  names : List (List Char)
  /-- The group that is read. -/
  group : OpenGroup
  /-- The groups around it, each with the modes that come back to force there. -/
  outer : List (OpenGroup × Modes)
deriving DecidableEq, Repr

/-- Whether a group may have this name. -/
def isGroupName : List Char → Bool
  | [] => false
  | c :: cs =>
    (c = '_' || Text.isAlphabetic c) &&
      cs.all fun d => d ∈ ['_', '.', '[', ']'] || Text.isAlphanumeric d

namespace Reading

/-- The start of a pattern. -/
def start : Reading := ⟨.initial, [], .opened, []⟩

/-- The reading with one more part. -/
def add (r : Reading) (p : Part) : Reading := { r with group := r.group.add p }

/-- The reading within one more group, which has these modes. -/
def enter (r : Reading) (modes : Modes) : Reading :=
  { r with modes := modes, group := .opened, outer := (r.group, r.modes) :: r.outer }

/-- The reading behind the group. -/
def leave? (r : Reading) : Option Reading :=
  match r.outer with
  | [] => none
  | (g, modes) :: outer =>
    some { r with modes := modes, group := g.add ⟨1 + r.group.depth, true⟩, outer := outer }

/-- Reads a name and enters its group. -/
def enterNamed? (r : Reading) (cs : List Char) : Option (Reading × List Char) :=
  let name := cs.takeWhile (· ≠ '>')
  match cs.drop name.length with
  | [] => none
  | _ :: rest =>
    if isGroupName name && name ∉ r.names then
      some ({ r with names := name :: r.names }.enter r.modes, rest)
    else none

/-- Reads what stands behind an opening parenthesis. -/
def readParenthesis? (r : Reading) (cs : List Char) : Option (Reading × List Char) :=
  match r.modes.skip cs with
  | '?' :: 'P' :: '<' :: rest => r.enterNamed? rest
  | '?' :: '<' :: rest => r.enterNamed? rest
  | '?' :: rest =>
    (readLetters? [] rest).bind fun (letters, stop, rest) =>
      let modes := r.modes.turnAll true letters
      if stop = ':' then some (r.enter modes, rest)
      else if letters.isEmpty then none
      else some ({ r with modes := modes }.add ⟨0, false⟩, rest)
  | rest => some (r.enter r.modes, rest)

/-- Reads on from a character. -/
def step? (r : Reading) (c : Char) (cs : List Char) : Option (Reading × List Char) :=
  if c = '(' then r.readParenthesis? cs
  else if c = ')' then r.leave?.map (·, cs)
  else if c = '|' then some ({ r with group := r.group.branch }, cs)
  else if c = '[' then (readSet? r.modes cs).map fun (depth, rest) => (r.add ⟨depth, true⟩, rest)
  else if c ∈ ['*', '+', '?'] then
    r.group.repeatLast?.map fun g =>
      ({ r with group := g }, if cs.head? = some '?' then cs.drop 1 else cs)
  else if c = '\x7b' then none
  else
    (readAtom? r.modes c cs).bind fun (atom, rest) =>
      if atom.isAllowed r.modes then some (r.add ⟨0, true⟩, rest) else none

/-- Reads to the end, and tells how deep the pattern nests.  Each step takes a
character, so `steps` need not be more than there are. -/
def finish? : (steps : Nat) → Reading → List Char → Option Nat
  | 0, _, _ => none
  | steps + 1, r, cs =>
    match r.modes.skip cs with
    | [] => if r.outer.isEmpty then some r.group.depth else none
    | c :: rest => (r.step? c rest).bind fun (r, rest) => finish? steps r rest

end Reading

/-- How deep a pattern may nest. -/
def depthLimit : Nat := 250

/-- How deep a pattern nests that can be read. -/
def depth? (cs : List Char) : Option Nat := Reading.start.finish? (cs.length + 1) cs

/-- Whether a pattern is well formed. -/
def isWellFormed (cs : List Char) : Bool := (depth? cs).any (· ≤ depthLimit)

end InjectionPlan.Pattern
