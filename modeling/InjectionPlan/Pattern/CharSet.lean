import InjectionPlan.Pattern.Atom

/-! # Sets of characters in a pattern

    A set stands between square brackets.  It holds characters, ranges, classes,
    named classes as in `[:alpha:]`, and further sets.  A doubled `&`, `-` or `~`
    combines what stands on its two sides.  Behind the opening bracket a `^` negates
    the set, and then any number of `-`, or else one `]`, stands for itself.

    A pattern that speaks of bytes cannot negate a set, since the rest of the bytes
    are not whole characters.

    As with atoms, this is the syntax of the logging facility for the patterns in its
    filters; no result is about it.
-/

namespace InjectionPlan.Pattern

/-- How deep parts nest that stand side by side, given how deep each of them does.
A single part does not nest deeper than by itself. -/
def nesting : List Nat → Nat
  | [] => 0
  | [d] => d
  | d :: ds => 1 + ds.foldl max d

/-- A set that is not closed yet. -/
structure OpenSet where
  /-- Nothing but hyphens was read behind the opening bracket. -/
  isFresh : Bool
  /-- How deep the left side of an operator nests. -/
  left : Option Nat
  /-- How deep the items nest that were read since, the last one first. -/
  items : List Nat
deriving DecidableEq, Repr

namespace OpenSet

/-- A set behind its opening bracket. -/
def opened : OpenSet := ⟨true, none, []⟩

/-- The set with one more item. -/
def add (s : OpenSet) (depth : Nat) : OpenSet :=
  { s with isFresh := false, items := depth :: s.items }

/-- How deep the contents of the set nest. -/
def depth (s : OpenSet) : Nat :=
  match s.left with
  | none => nesting s.items
  | some l => 1 + max l (nesting s.items)

/-- The set behind an operator. -/
def combine (s : OpenSet) : OpenSet := ⟨false, some s.depth, []⟩

/-- Whether the character stands for itself since nothing is in front of it. -/
def takesLiterally (s : OpenSet) (c : Char) : Bool :=
  s.isFresh && (c = '-' || (c = ']' && s.items.isEmpty))

end OpenSet

/-- The names of classes. -/
def classNames : List String :=
  ["alnum", "alpha", "ascii", "blank", "cntrl", "digit", "graph", "lower", "print", "punct",
    "space", "upper", "word", "xdigit"]

/-- Reads a named class behind its opening bracket; tells whether it is negated. -/
def readNamedClass? : List Char → Option (Bool × List Char)
  | ':' :: cs =>
    let isNegated := cs.head? = some '^'
    let body := if isNegated then cs.drop 1 else cs
    let name := body.takeWhile (· ≠ ':')
    match body.drop name.length with
    | ':' :: ']' :: rest =>
      if String.ofList name ∈ classNames then some (isNegated, rest) else none
    | _ => none
  | _ => none

/-- Whether a set may hold a named class. -/
def allowsNamedClass (m : Modes) (isNegated : Bool) : Bool :=
  if m.isUnicode then !m.ignoresCase else !isNegated

/-- Reads an atom within a set. -/
def readMember? (m : Modes) : List Char → Option (Atom × List Char)
  | [] => none
  | c :: cs => if c = '\\' then readEscaped? m cs else some (.literal c false, cs)

/-- Reads an atom or a range within a set and gives the text behind it.  A hyphen
makes no range if a closing bracket or another hyphen follows it. -/
def readItem? (m : Modes) (cs : List Char) : Option (List Char) :=
  (readMember? m cs).bind fun (first, behind) =>
    match m.skip behind with
    | [] => none
    | c :: rest =>
      if c = '-' && m.peek? rest ≠ some ']' && m.peek? rest ≠ some '-' then
        (readMember? m (m.skip rest)).bind fun (last, rest) =>
          if first.isRange m last then some rest else none
      else if first.isAllowedInSet m then some (c :: rest)
      else none

/-- The text behind an opening bracket and the sign that negates the set, if that is
allowed. -/
def readOpening? (m : Modes) (cs : List Char) : Option (List Char) :=
  match m.skip cs with
  | '^' :: rest => if m.isUnicode then some rest else none
  | rest => some rest

/-- Reads sets to the end of the outermost one, and tells how deep that one nests;
`outer` are the sets around the one that is read.  Each step takes a character, so
`steps` need not be more than there are. -/
def readSets? (m : Modes) :
    (steps : Nat) → OpenSet → (outer : List OpenSet) → List Char → Option (Nat × List Char)
  | 0, _, _, _ => none
  | steps + 1, s, outer, cs =>
    match m.skip cs with
    | [] => none
    | c :: rest =>
      if s.takesLiterally c then
        if (Atom.literal c false).isAllowedInSet m then
          readSets? m steps { s.add 0 with isFresh := c = '-' } outer rest
        else none
      else if c = '[' then
        match readNamedClass? rest with
        | some (isNegated, rest) =>
          if allowsNamedClass m isNegated then readSets? m steps (s.add 0) outer rest else none
        | none => (readOpening? m rest).bind (readSets? m steps .opened (s :: outer))
      else if c = ']' then
        match outer with
        | [] => some (1 + s.depth, rest)
        | o :: outer => readSets? m steps (o.add (1 + s.depth)) outer rest
      else if c ∈ ['&', '-', '~'] && rest.head? = some c then
        readSets? m steps s.combine outer (rest.drop 1)
      else (readItem? m (c :: rest)).bind (readSets? m steps (s.add 0) outer)

/-- Reads a set behind its opening bracket, and tells how deep it nests. -/
def readSet? (m : Modes) (cs : List Char) : Option (Nat × List Char) :=
  (readOpening? m cs).bind (readSets? m (cs.length + 1) .opened [])

end InjectionPlan.Pattern
