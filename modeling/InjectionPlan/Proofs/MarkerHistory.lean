import InjectionPlan.Marker.Edit

/-! # What a marker says after its edits

    A marker is started bare or as a bulk rule for a contract, and then edited in any
    order.  Its history is what the start adds, followed by the edits.  The three places for
    arguments are overridden in different ways:
    - of the named arguments of one name, the first is kept (`argument?_edits`);
    - of the type arguments, the last is kept (`typeArgument_edits`);
    - the positional arguments are all kept, in order (`positional_edits`).

    Main statement: the contract and the lifetime of a marker are told from its history, and
    an argument that is there stays as it is (`accessors_of_history`).
-/

namespace InjectionPlan

namespace Marker

variable {m : Marker} {e : Edit} {es : List Edit} {key : String}

/-! ### What is added -/

namespace Edit

/-- The argument that the edit adds under the name. -/
def named? (key : String) : Edit → Option Argument
  | named name value => if name = key then some value else none
  | _ => none

/-- The type argument that the edit sets. -/
def typeArgument? : Edit → Option TypeExpr
  | typeArgument t => some t
  | _ => none

/-- The positional argument that the edit adds. -/
def positional? : Edit → Option Argument
  | positional value => some value
  | _ => none

/-- The lifetime that the edit adds as a positional argument. -/
def positionalLifetime? : Edit → Option Lifetime
  | positional (.lifetime l) => some l
  | _ => none

end Edit

/-- The first argument ever added under the name. -/
def firstNamed (key : String) (es : List Edit) : Option Argument := es.findSome? (Edit.named? key)

/-- The type argument that was set last. -/
def lastTypeArgument (es : List Edit) : Option TypeExpr :=
  (es.filterMap Edit.typeArgument?).getLast?

/-- The first positional argument ever added. -/
def firstPositional (es : List Edit) : Option Argument := es.findSome? Edit.positional?

/-- The first lifetime ever added as a positional argument. -/
def firstLifetime (es : List Edit) : Option Lifetime := es.findSome? Edit.positionalLifetime?

/-- The contract that a history names. -/
def contractAdded? (es : List Edit) : Option TypeExpr :=
  match firstNamed ArgumentKey.contract.name es with
  | some (.type t) => some t
  | _ =>
    match lastTypeArgument es with
    | some t => some t
    | none =>
      match firstPositional es with
      | some (.type t) => some t
      | _ => none

/-- The lifetime that a history asks for. -/
def lifetimeAdded (es : List Edit) : Lifetime :=
  match (firstNamed ArgumentKey.lifetime.name es).bind Argument.lifetime? with
  | some l => l
  | none =>
    match firstLifetime es with
    | some l => l
    | none => .transient

/-- How a marker is started. -/
inductive Start
  /-- Without arguments. -/
  | bare (kind : MarkerKind)
  /-- As a bulk rule whose contract is its first positional argument. -/
  | byPosition (contract : TypeExpr)
  /-- As a bulk rule whose contract is its type argument. -/
  | byType (contract : TypeExpr)

namespace Start

/-- What is asked for. -/
def kind : Start → MarkerKind
  | bare kind => kind
  | byPosition _ => .registerAll
  | byType _ => .registerAll

/-- The marker that is started. -/
def marker : Start → Marker
  | bare kind => .bare kind
  | byPosition contract => .bulkByPosition contract
  | byType contract => .bulkByType contract

/-- What the start itself adds. -/
def additions : Start → List Edit
  | bare _ => []
  | byPosition contract => [.positional (.type contract)]
  | byType contract => [.typeArgument contract]

/-- All that was ever added to a marker that was started and edited. -/
def history (start : Start) (es : List Edit) : List Edit := start.additions ++ es

end Start

/-! ### One edit and a run of edits -/

theorem edits_append (m : Marker) (es es' : List Edit) :
    m.edits (es ++ es') = (m.edits es).edits es' := List.foldl_append

/-- An argument is found under a name if it was there before, else if it is the one added. -/
theorem argument?_edit (m : Marker) (e : Edit) (key : String) :
    (m.edit e).argument? key = (m.argument? key).or (e.named? key) := by
  cases e with
  | named name value =>
    show (m.named ++ [(name, value)]).lookup key = _
    rw [List.lookup_append]
    by_cases h : name = key
    · simp [argument?, Edit.named?, h]
    · have hne : (key == name) = false := beq_eq_false_iff_ne.2 (Ne.symm h)
      simp [argument?, Edit.named?, h, List.lookup_cons, hne]
  | typeArgument t => exact Option.or_none.symm
  | positional value => exact Option.or_none.symm

theorem argument?_edits (m : Marker) (es : List Edit) (key : String) :
    (m.edits es).argument? key = (m.argument? key).or (firstNamed key es) := by
  induction es generalizing m with
  | nil => exact Option.or_none.symm
  | cons e es ih =>
    have hfirst : firstNamed key (e :: es) = (e.named? key).or (firstNamed key es) := by
      unfold firstNamed
      rw [List.findSome?_cons]
      cases e.named? key <;> rfl
    show ((m.edit e).edits es).argument? key = _
    rw [ih, argument?_edit, hfirst, Option.or_assoc]

theorem typeArgument_edit (m : Marker) (e : Edit) :
    (m.edit e).typeArgument = e.typeArgument?.or m.typeArgument := by
  cases e <;> rfl

theorem typeArgument_edits (m : Marker) (es : List Edit) :
    (m.edits es).typeArgument = (lastTypeArgument es).or m.typeArgument := by
  induction es generalizing m with
  | nil => rfl
  | cons e es ih =>
    have hlast : lastTypeArgument (e :: es) = (lastTypeArgument es).or e.typeArgument? := by
      unfold lastTypeArgument
      cases h : e.typeArgument? with
      | none => rw [List.filterMap_cons_none h, Option.or_none]
      | some t =>
        rw [List.filterMap_cons_some h, List.getLast?_cons]
        cases (es.filterMap Edit.typeArgument?).getLast? <;> rfl
    show ((m.edit e).edits es).typeArgument = _
    rw [ih, typeArgument_edit, hlast, Option.or_assoc]

theorem positional_edit (m : Marker) (e : Edit) :
    (m.edit e).positional = m.positional ++ e.positional?.toList := by
  cases e with
  | named name value => exact (List.append_nil _).symm
  | typeArgument t => exact (List.append_nil _).symm
  | positional value => rfl

theorem positional_edits (m : Marker) (es : List Edit) :
    (m.edits es).positional = m.positional ++ es.filterMap Edit.positional? := by
  induction es generalizing m with
  | nil => exact (List.append_nil _).symm
  | cons e es ih =>
    show ((m.edit e).edits es).positional = _
    rw [ih, positional_edit, List.append_assoc]
    cases h : e.positional? with
    | none => rw [List.filterMap_cons_none h, Option.toList_none, List.nil_append]
    | some value =>
      rw [List.filterMap_cons_some h, Option.toList_some, List.singleton_append]

/-! ### Markers and their histories -/

/-- A start is a bare marker with one edit at most. -/
theorem Start.marker_eq (start : Start) :
    start.marker = (Marker.bare start.kind).edits start.additions := by
  cases start <;> rfl

/-- So is a marker that was started and edited, with its history. -/
theorem Start.edits_marker (start : Start) (es : List Edit) :
    start.marker.edits es = (Marker.bare start.kind).edits (start.history es) := by
  rw [start.marker_eq, Start.history, edits_append]

section Bare

variable (kind : MarkerKind) (es : List Edit)

theorem argument?_edits_bare (key : String) :
    ((Marker.bare kind).edits es).argument? key = firstNamed key es := by
  rw [argument?_edits]
  rfl

theorem typeArgument_edits_bare :
    ((Marker.bare kind).edits es).typeArgument = lastTypeArgument es := by
  rw [typeArgument_edits]
  exact Option.or_none

theorem positional_edits_bare :
    ((Marker.bare kind).edits es).positional = es.filterMap Edit.positional? := by
  rw [positional_edits]
  rfl

/-- Only a positional argument that is a lifetime itself counts, and it is the one that it
is. -/
theorem findSome?_lifetime_edits_bare :
    (((Marker.bare kind).edits es).positional.filter Argument.isLifetime).findSome?
      Argument.lifetime? = firstLifetime es := by
  rw [positional_edits_bare]
  unfold firstLifetime
  induction es with
  | nil => rfl
  | cons e es ih =>
    cases e with
    | named name value => exact ih
    | typeArgument t => exact ih
    | positional value =>
      cases value with
      | lifetime l => rfl
      | flag b => exact ih
      | number n => exact ih
      | text s => exact ih
      | type t => exact ih

/-- An argument that is no type gives way to the rest. -/
theorem type?_or (value : Option Argument) (rest : Option TypeExpr) :
    (value.bind Argument.type?).or rest =
      match value with
      | some (.type t) => some t
      | _ => rest := by
  cases value with
  | none => rfl
  | some value => cases value <;> rfl

theorem contract?_edits_bare :
    ((Marker.bare kind).edits es).contract? = contractAdded? es := by
  have hpositional : ((Marker.bare kind).edits es).positional.head? = firstPositional es := by
    rw [positional_edits_bare, List.head?_filterMap]
    rfl
  unfold contract? contractAdded?
  rw [argument?_edits_bare, typeArgument_edits_bare, hpositional, type?_or,
    ← Option.or_none (o := (firstPositional es).bind Argument.type?), type?_or]
  cases lastTypeArgument es <;> rfl

theorem lifetime_edits_bare : ((Marker.bare kind).edits es).lifetime = lifetimeAdded es := by
  unfold Marker.lifetime lifetimeAdded
  rw [argument?_edits_bare, findSome?_lifetime_edits_bare]
  cases (firstNamed ArgumentKey.lifetime.name es).bind Argument.lifetime? with
  | some l => rfl
  | none => cases firstLifetime es <;> rfl

end Bare

/-- What is found under a name stays when edits follow. -/
theorem argument?_edits_of_isSome (h : (m.argument? key).isSome = true) (es : List Edit) :
    (m.edits es).argument? key = m.argument? key := by
  rw [argument?_edits, Option.or_of_isSome h]

theorem isSome_firstNamed {value : Argument} (h : Edit.named key value ∈ es) :
    (firstNamed key es).isSome = true := by
  unfold firstNamed
  rw [List.findSome?_isSome_iff]
  exact ⟨_, h, by simp [Edit.named?]⟩

/-- Let a marker be started and edited in any way.  Its contract is the first argument ever
added for it, if that is a type; else the type argument that was set last; else the first
positional argument ever added, if that is a type.  Its lifetime is the one that the first
argument ever added for it spells, if it spells one; else the first lifetime ever added as a
positional argument; else transient.  Once an argument was added under a name, no later edit
changes what is found under it. -/
theorem accessors_of_history (start : Start) (es : List Edit) :
    (start.marker.edits es).contract? = contractAdded? (start.history es) ∧
    (start.marker.edits es).lifetime = lifetimeAdded (start.history es) ∧
    ∀ key value, Edit.named key value ∈ start.history es → ∀ later,
      ((start.marker.edits es).edits later).argument? key =
        (start.marker.edits es).argument? key := by
  rw [start.edits_marker]
  refine ⟨contract?_edits_bare _ _, lifetime_edits_bare _ _, ?_⟩
  intro key value hmem later
  apply argument?_edits_of_isSome
  rw [argument?_edits_bare]
  exact isSome_firstNamed hmem

end Marker

namespace Relabelled

/-- An interface of the module. -/
def contract (name : String) : TypeExpr := .plain ⟨"App", name, .interfaceType⟩

/-- The rule starts with a contract. -/
def start : Marker.Start := .byPosition (contract "IClock")

/-- The first argument for the contract is no type, and the one for the lifetime is the
numeral of a tag. -/
def session : List Marker.Edit :=
  [.keyed .contract (.text "IWatch"), .typeArgument (contract "ITimer"),
    .keyed .lifetime (.text " +02"), .contract (contract "IAlarm"), .lifetime .perScope,
    .typeArgument (contract "IBell"), .positional (.lifetime .perScope)]

end Relabelled

/-- The last type argument wins over the first position and over the later named type, and
the numeral over both other lifetimes.  What is found for the contract stays as it is. -/
theorem Relabelled.label_stays :
    (start.marker.edits session).contract? = some (contract "IBell") ∧
    (start.marker.edits session).lifetime = .singleton ∧
    Marker.Edit.named "ServiceType" (.text "IWatch") ∈ start.history session ∧
    ∀ later, ((start.marker.edits session).edits later).argument? "ServiceType" =
      some (.text "IWatch") := by
  obtain ⟨hcontract, hlifetime, hstays⟩ := Marker.accessors_of_history start session
  have hadded : Marker.Edit.named "ServiceType" (.text "IWatch") ∈ start.history session :=
    List.mem_of_getElem? (i := 1) rfl
  refine ⟨hcontract.trans rfl, hlifetime.trans (by decide), hadded, ?_⟩
  intro later
  rw [hstays "ServiceType" _ hadded later]
  rfl

end InjectionPlan
