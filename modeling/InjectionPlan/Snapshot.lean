import InjectionPlan.Declaration
import InjectionPlan.Index

/-! # Snapshots of a module

    A draft collects what a module declares: its types and, for the module as a
    whole, its bulk rules.  A snapshot is a draft in which nothing is wrong:
    - no two types have the same key;
    - every marker on a type, a method or the module may sit there.

    A draft is frozen type by type, in the order of declaration.  Each type is checked
    and then entered into an index under its key, the name that all its forms share, and
    a type whose key leads somewhere already is refused.  The module's own markers come
    last.  `Draft.freeze` reports the first fault.

    The snapshot keeps the index, and a reference finds the declaration behind it there.
    The index agrees with the declared types (`Snapshot.agrees`), so a reference finds
    exactly the type that has its key (`Snapshot.find?_eq_some_iff`).
-/

namespace InjectionPlan

/-- Why a draft cannot be frozen. -/
inductive DraftError
  /-- A type with this qualified name has the key of one before it. -/
  | duplicateType (qualifiedName : String)
  /-- A marker sits where its kind may not sit. -/
  | misplacedMarker (kind : MarkerKind) (target : String)
deriving DecidableEq, Repr

/-- What the user is told. -/
def DraftError.message : DraftError → String
  | duplicateType q => "Type declared more than once: " ++ q
  | misplacedMarker k target => "Marker " ++ k.name ++ " cannot be attached to " ++ target

/-- The types and rules of a module, in the order they were declared. -/
structure Draft where
  /-- The module's name. -/
  name : String
  /-- The declared types. -/
  types : List Declaration
  /-- The markers on the module. -/
  rules : List Marker
deriving Repr

namespace Draft

/-- A module that declares nothing. -/
def empty (name : String) : Draft := ⟨name, [], []⟩

/-- The draft with one more type. -/
def declare (d : Draft) (t : Declaration) : Draft := { d with types := d.types ++ [t] }

/-- The draft with one more marker on the module. -/
def addRule (d : Draft) (m : Marker) : Draft := { d with rules := d.rules ++ [m] }

/-- One addition to a draft. -/
inductive Edit
  /-- Declare a type. -/
  | declare (t : Declaration)
  /-- Put a marker on the module. -/
  | addRule (m : Marker)
deriving Repr

/-- The draft after an addition. -/
def edit (d : Draft) : Edit → Draft
  | .declare t => d.declare t
  | .addRule m => d.addRule m

/-- The draft after a run of additions. -/
def edits (d : Draft) (es : List Edit) : Draft := es.foldl edit d

/-- The first marker that may not sit on `target`. -/
def misplaced? (fits : MarkerKind → Bool) (target : String) (ms : List Marker) :
    Option DraftError :=
  (ms.find? fun m => !fits m.kind).map fun m => .misplacedMarker m.kind target

/-- The first marker that may not sit on the method of `d`. -/
def methodFault? (d : Declaration) (m : Method) : Option DraftError :=
  misplaced? MarkerKind.fitsMethod (d.qualifiedName ++ "." ++ m.name) m.markers

/-- The first fault of a type, if the types before it are entered in the index. -/
def typeFault? (ix : Index) (d : Declaration) : Option DraftError :=
  if (ix.position? d.key).isSome then some (.duplicateType d.qualifiedName)
  else (misplaced? MarkerKind.fitsType d.qualifiedName d.markers).or
    (d.methods.findSome? (methodFault? d))

/-- Enters types into the index, up to the first one that is at fault.  The first of them
stands at position `n`. -/
def enter : Index → Nat → List Declaration → Except DraftError Index
  | ix, _, [] => .ok ix
  | ix, n, d :: ds =>
    match typeFault? ix d with
    | some e => .error e
    | none => enter (ix.insert d.key n) (n + 1) ds

/-- The index of the declared types, or the first fault of the draft. -/
def indexed (d : Draft) : Except DraftError Index :=
  match enter .empty 0 d.types with
  | .error e => .error e
  | .ok ix =>
    match misplaced? MarkerKind.fitsModule d.name d.rules with
    | some e => .error e
    | none => .ok ix

end Draft

/-- A draft in which nothing is wrong, with the index of its types. -/
structure Snapshot extends Draft where
  /-- Where each type stands, by its key. -/
  index : Index := .ofKeys (types.map Declaration.key)
  /-- The draft has no fault, and this is its index. -/
  faultless : toDraft.indexed = .ok index

/-- The draft as a snapshot, or its first fault. -/
def Draft.freeze (d : Draft) : Except DraftError Snapshot :=
  match h : d.indexed with
  | .ok ix => .ok ⟨d, ix, h⟩
  | .error e => .error e

namespace Snapshot

/-- The keys of the declared types. -/
def keys (s : Snapshot) : List String := s.types.map Declaration.key

/-- The declaration behind a reference, whatever its arguments. -/
def find? (s : Snapshot) (t : TypeExpr) : Option Declaration :=
  (s.index.position? t.familyName).bind (s.types[·]?)

/-- The smaller of two texts, by code points. -/
def smaller (a b : String) : String := if b < a then b else a

/-- The smallest non-empty namespace of a declared type. -/
def smallestNamespace? (s : Snapshot) : Option String :=
  match (s.types.map Declaration.ns).filter (!·.isEmpty) with
  | [] => none
  | n :: ns => some (ns.foldl smaller n)

end Snapshot

/-! ### The index of a draft -/

namespace Draft

variable {d : Draft} {ix ix' : Index} {n : Nat} {t : Declaration} {ts before : List Declaration}
  {e : DraftError}

theorem enter_cons_eq_ok_iff :
    enter ix n (t :: ts) = .ok ix' ↔
      typeFault? ix t = none ∧ enter (ix.insert t.key n) (n + 1) ts = .ok ix' := by
  rw [enter]
  cases typeFault? ix t <;> simp

theorem enter_cons_eq_error_iff :
    enter ix n (t :: ts) = .error e ↔
      typeFault? ix t = some e ∨
        (typeFault? ix t = none ∧ enter (ix.insert t.key n) (n + 1) ts = .error e) := by
  rw [enter]
  cases typeFault? ix t <;> simp

/-- Behind a type without fault the next one is entered. -/
theorem enter_cons_of_typeFault? (h : typeFault? ix t = none) :
    enter ix before.length (t :: ts) =
      enter (ix.insert t.key before.length) (before ++ [t]).length ts := by
  rw [enter, h, List.length_append, List.length_singleton]

theorem indexed_eq_ok_iff :
    d.indexed = .ok ix ↔
      enter .empty 0 d.types = .ok ix ∧ misplaced? MarkerKind.fitsModule d.name d.rules = none := by
  rw [indexed]
  cases enter .empty 0 d.types <;> cases misplaced? MarkerKind.fitsModule d.name d.rules <;> simp

theorem indexed_eq_error_iff :
    d.indexed = .error e ↔
      enter .empty 0 d.types = .error e ∨
        ((∃ ix, enter .empty 0 d.types = .ok ix) ∧
          misplaced? MarkerKind.fitsModule d.name d.rules = some e) := by
  rw [indexed]
  cases enter .empty 0 d.types <;> cases misplaced? MarkerKind.fitsModule d.name d.rules <;> simp

/-- Before a type is entered, the index agrees with the empty module. -/
theorem agrees_start : Index.empty.Agrees (([] : List Declaration).map Declaration.key) :=
  Index.agrees_empty

/-- A type without fault has a new key. -/
theorem position?_of_typeFault? (h : typeFault? ix t = none) : ix.position? t.key = none := by
  cases hkey : ix.position? t.key with
  | none => rfl
  | some i => simp [typeFault?, hkey] at h

/-- Entering a type without fault keeps the index in agreement with what is declared. -/
theorem agrees_insert_of_typeFault? (hix : ix.Agrees (before.map Declaration.key))
    (h : typeFault? ix t = none) :
    (ix.insert t.key before.length).Agrees ((before ++ [t]).map Declaration.key) := by
  have hstep := hix.insert (position?_of_typeFault? h)
  rwa [List.length_map, ← List.map_singleton, ← List.map_append] at hstep

/-- So does entering types one after another. -/
theorem agrees_of_enter (hix : ix.Agrees (before.map Declaration.key))
    (h : enter ix before.length ts = .ok ix') :
    ix'.Agrees ((before ++ ts).map Declaration.key) := by
  induction ts generalizing ix before with
  | nil =>
    cases h
    rwa [List.append_nil]
  | cons t ts ih =>
    obtain ⟨hfault, -⟩ := enter_cons_eq_ok_iff.1 h
    rw [enter_cons_of_typeFault? hfault] at h
    rw [List.append_cons]
    exact ih (agrees_insert_of_typeFault? hix hfault) h

/-- Freezing gives a snapshot exactly if no fault is found, and it holds the draft. -/
theorem freeze_eq_ok_iff {s : Snapshot} : d.freeze = .ok s ↔ s.toDraft = d := by
  unfold freeze
  split
  · rename_i ix h
    constructor
    · intro e
      cases e
      rfl
    · rintro rfl
      obtain rfl : s.index = ix := Except.ok.inj (s.faultless.symm.trans h)
      rfl
  · rename_i e h
    constructor
    · intro c
      cases c
    · rintro rfl
      rw [s.faultless] at h
      cases h

/-- Freezing fails exactly with the first fault. -/
theorem freeze_eq_error_iff : d.freeze = .error e ↔ d.indexed = .error e := by
  unfold freeze
  split
  · rename_i h
    simp [h]
  · rename_i e' h
    simp [h]

end Draft

/-! ### Look-ups in a snapshot -/

namespace Snapshot

variable {s : Snapshot} {t : TypeExpr} {d : Declaration}

/-- A key leads to the position of the declared type that has it, and nowhere if there is
none. -/
theorem agrees (s : Snapshot) : s.index.Agrees s.keys :=
  Draft.agrees_of_enter Draft.agrees_start (Draft.indexed_eq_ok_iff.1 s.faultless).1

/-- No two declared types have the same key. -/
theorem nodup_keys (s : Snapshot) : s.keys.Nodup := s.agrees.nodup

/-- A reference finds the declared type with its key. -/
theorem find?_eq_some_iff : s.find? t = some d ↔ d ∈ s.types ∧ d.key = t.familyName := by
  constructor
  · intro h
    obtain ⟨i, hi, hd⟩ := Option.bind_eq_some_iff.1 h
    have hkey : s.keys[i]? = some t.familyName := (s.agrees _ i).1 hi
    rw [keys, List.getElem?_map, hd, Option.map_some, Option.some.injEq] at hkey
    exact ⟨List.mem_of_getElem? hd, hkey⟩
  · rintro ⟨hd, hkey⟩
    obtain ⟨i, hi⟩ := List.mem_iff_getElem?.1 hd
    have hposition : s.index.position? t.familyName = some i := by
      rw [s.agrees, keys, List.getElem?_map, hi, Option.map_some, hkey]
    rw [find?, hposition, Option.bind_some, hi]

theorem key_of_find? (h : s.find? t = some d) : d.key = t.familyName := (find?_eq_some_iff.1 h).2

theorem mem_of_find? (h : s.find? t = some d) : d ∈ s.types := (find?_eq_some_iff.1 h).1

/-- A reference finds a declaration only if its name is a declared key. -/
theorem familyName_mem_keys (h : s.find? t = some d) : t.familyName ∈ s.keys := by
  rw [← key_of_find? h]
  exact List.mem_map_of_mem (mem_of_find? h)

end Snapshot

end InjectionPlan
