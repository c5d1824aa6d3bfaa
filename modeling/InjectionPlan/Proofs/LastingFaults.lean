import InjectionPlan.Proofs.Faultless
import InjectionPlan.Showcase.Shop

/-! # Faults of a draft

    A draft grows by additions only.  A fault that it has can be seen in all that is
    declared up to some point, so no addition repairs it, and a draft that cannot be
    frozen now can never be frozen (`failure_is_permanent`).

    Which fault is reported can change, but in one way only.  The types are entered in
    the order of declaration and before the rules of the module are checked.  So the first
    fault of a type stays the first (`Draft.enter_edit`), while that of a rule gives way to
    the first fault of a type that is declared later.
-/

namespace InjectionPlan

variable {d : Draft} {t : Declaration} {before ts : List Declaration} {taken : List String}
  {ix : Index} {n : Nat} {e : DraftError}

/-! ### What can be wrong -/

/-- What is wrong with a type, if types with the keys `taken` stand before it. -/
inductive Declaration.HasFault (taken : List String) (t : Declaration) : DraftError → Prop
  /-- Its key is taken. -/
  | duplicate : t.key ∈ taken → HasFault taken t (.duplicateType t.qualifiedName)
  /-- A marker of the type may not sit on a type. -/
  | onType {m : Marker} : m ∈ t.markers → m.kind.fitsType = false →
    HasFault taken t (.misplacedMarker m.kind t.qualifiedName)
  /-- A marker of one of its methods may not sit on a method. -/
  | onMethod {f : Method} {m : Marker} : f ∈ t.methods → m ∈ f.markers →
    m.kind.fitsMethod = false →
    HasFault taken t (.misplacedMarker m.kind (t.qualifiedName ++ "." ++ f.name))

/-- Something is wrong with a declared type or with one of its methods. -/
def Draft.HasTypeFault (d : Draft) (e : DraftError) : Prop :=
  ∃ before t after, d.types = before ++ t :: after ∧ t.HasFault (before.map Declaration.key) e

/-- A marker of the module may not sit on a module. -/
def Draft.HasRuleFault (d : Draft) (e : DraftError) : Prop :=
  ∃ m ∈ d.rules, m.kind.fitsModule = false ∧ e = .misplacedMarker m.kind d.name

namespace Draft

theorem misplaced?_eq_some {fits : MarkerKind → Bool} {target : String} {ms : List Marker}
    (h : misplaced? fits target ms = some e) :
    ∃ m ∈ ms, fits m.kind = false ∧ e = .misplacedMarker m.kind target := by
  obtain ⟨m, hm, rfl⟩ := Option.map_eq_some_iff.1 h
  have hfits := List.find?_some hm
  exact ⟨m, List.mem_of_find?_eq_some hm, by simpa using hfits, rfl⟩

theorem isSome_misplaced? {fits : MarkerKind → Bool} {target : String} {ms : List Marker}
    {m : Marker} (hm : m ∈ ms) (hfits : fits m.kind = false) :
    (misplaced? fits target ms).isSome = true := by
  rw [Option.isSome_iff_ne_none]
  intro hnone
  rw [misplaced?_eq_none_iff.1 hnone m hm] at hfits
  cases hfits

/-- What is found wrong with a type is wrong with it. -/
theorem hasFault_of_typeFault? (hix : ix.Agrees taken) (h : typeFault? ix t = some e) :
    t.HasFault taken e := by
  unfold typeFault? at h
  by_cases hkey : t.key ∈ taken
  · rw [if_pos (hix.isSome_position?_iff.2 hkey)] at h
    cases h
    exact .duplicate hkey
  · rw [if_neg (mt hix.isSome_position?_iff.1 hkey), Option.or_eq_some_iff] at h
    rcases h with htype | ⟨-, hmethod⟩
    · obtain ⟨m, hm, hfits, rfl⟩ := misplaced?_eq_some htype
      exact .onType hm hfits
    · obtain ⟨f, hf, hmethod⟩ := List.exists_of_findSome?_eq_some hmethod
      obtain ⟨m, hm, hfits, rfl⟩ := misplaced?_eq_some hmethod
      exact .onMethod hf hm hfits

/-- Something is found wrong with a type if anything is. -/
theorem isSome_typeFault? (hix : ix.Agrees taken) (h : t.HasFault taken e) :
    (typeFault? ix t).isSome = true := by
  unfold typeFault?
  split
  · rfl
  · rename_i hkey
    rw [Option.isSome_or, Bool.or_eq_true]
    cases h with
    | duplicate htaken => exact absurd (hix.isSome_position?_iff.2 htaken) hkey
    | onType hm hfits => exact .inl (isSome_misplaced? hm hfits)
    | onMethod hf hm hfits =>
      rw [List.findSome?_isSome_iff]
      exact .inr ⟨_, hf, isSome_misplaced? hm hfits⟩

/-- What is found wrong first with the types is wrong with one of them. -/
theorem exists_hasFault_of_enter (hix : ix.Agrees (before.map Declaration.key))
    (h : enter ix before.length ts = .error e) :
    ∃ between t after, ts = between ++ t :: after ∧
      t.HasFault ((before ++ between).map Declaration.key) e := by
  induction ts generalizing ix before with
  | nil => cases h
  | cons u ts ih =>
    rcases enter_cons_eq_error_iff.1 h with hu | ⟨hu, -⟩
    · refine ⟨[], u, ts, rfl, ?_⟩
      rw [List.append_nil]
      exact hasFault_of_typeFault? hix hu
    · -- the rest was checked after `u` was entered too
      rw [enter_cons_of_typeFault? hu] at h
      obtain ⟨between, t, after, rfl, ht⟩ := ih (agrees_insert_of_typeFault? hix hu) h
      rw [← List.append_cons] at ht
      exact ⟨u :: between, t, after, rfl, ht⟩

/-- Something is found wrong with the types if anything is wrong with one of them. -/
theorem exists_enter_eq_error {between after : List Declaration}
    (hix : ix.Agrees (before.map Declaration.key))
    (h : t.HasFault ((before ++ between).map Declaration.key) e) :
    ∃ e', enter ix before.length (between ++ t :: after) = .error e' := by
  induction between generalizing ix before with
  | nil =>
    rw [List.append_nil] at h
    obtain ⟨e', ht⟩ := Option.isSome_iff_exists.1 (isSome_typeFault? hix h)
    exact ⟨e', enter_cons_eq_error_iff.2 (.inl ht)⟩
  | cons u between ih =>
    cases hu : typeFault? ix u with
    | some e' => exact ⟨e', enter_cons_eq_error_iff.2 (.inl hu)⟩
    | none =>
      rw [List.append_cons] at h
      rw [List.cons_append, enter_cons_of_typeFault? hu]
      exact ih (agrees_insert_of_typeFault? hix hu) h

theorem hasTypeFault_of_enter (h : enter .empty 0 d.types = .error e) : d.HasTypeFault e := by
  obtain ⟨between, t, after, htypes, ht⟩ := exists_hasFault_of_enter agrees_start h
  exact ⟨between, t, after, htypes, ht⟩

theorem exists_enter_eq_error_of_hasTypeFault (h : d.HasTypeFault e) :
    ∃ e', enter .empty 0 d.types = .error e' := by
  obtain ⟨between, t, after, htypes, ht⟩ := h
  rw [htypes]
  exact exists_enter_eq_error agrees_start ht

/-- What is reported is a fault of a type or, if no type has one, of a rule. -/
theorem hasFault_of_indexed (h : d.indexed = .error e) :
    (enter .empty 0 d.types = .error e ∧ d.HasTypeFault e) ∨
      ((∀ e', ¬ d.HasTypeFault e') ∧ d.HasRuleFault e) := by
  rcases indexed_eq_error_iff.1 h with htypes | ⟨⟨ix, hok⟩, hrules⟩
  · exact .inl ⟨htypes, hasTypeFault_of_enter htypes⟩
  · -- the rules are checked only after all types were entered
    refine .inr ⟨?_, misplaced?_eq_some hrules⟩
    intro e' htype
    obtain ⟨e'', herror⟩ := exists_enter_eq_error_of_hasTypeFault htype
    rw [hok] at herror
    cases herror

/-! ### One addition -/

/-- Types that are declared later do not change what is found first. -/
theorem enter_append (h : enter ix n ts = .error e) (us : List Declaration) :
    enter ix n (ts ++ us) = .error e := by
  induction ts generalizing ix n with
  | nil => cases h
  | cons u ts ih =>
    rw [List.cons_append]
    rcases enter_cons_eq_error_iff.1 h with hu | ⟨hu, hrest⟩
    · exact enter_cons_eq_error_iff.2 (.inl hu)
    · exact enter_cons_eq_error_iff.2 (.inr ⟨hu, ih hrest⟩)

/-- No addition changes what is found first with the types. -/
theorem enter_edit (h : enter .empty 0 d.types = .error e) (x : Edit) :
    enter .empty 0 (d.edit x).types = .error e := by
  cases x with
  | declare t => exact enter_append h [t]
  | addRule m => exact h

theorem indexed_of_enter (h : enter .empty 0 d.types = .error e) : d.indexed = .error e :=
  indexed_eq_error_iff.2 (.inl h)

/-- A marker that is added later does not change what is found first with the rules. -/
theorem misplaced?_edit (h : misplaced? MarkerKind.fitsModule d.name d.rules = some e) (x : Edit) :
    misplaced? MarkerKind.fitsModule (d.edit x).name (d.edit x).rules = some e := by
  cases x with
  | declare t => exact h
  | addRule m =>
    obtain ⟨k, hk, hfault⟩ := Option.map_eq_some_iff.1 h
    show misplaced? MarkerKind.fitsModule d.name (d.rules ++ [m]) = some e
    rw [misplaced?, List.find?_append, hk, Option.some_or, Option.map_some, hfault]

/-- After an addition a faulty draft has the same first fault, or one that is found with
the types. -/
theorem indexed_edit (h : d.indexed = .error e) (x : Edit) :
    (d.edit x).indexed = .error e ∨ ∃ e', enter .empty 0 (d.edit x).types = .error e' := by
  rcases indexed_eq_error_iff.1 h with htypes | ⟨-, hrules⟩
  · exact .inr ⟨e, enter_edit htypes x⟩
  · -- a rule is at fault, and a type that is declared now comes before it
    cases hnow : enter .empty 0 (d.edit x).types with
    | error e' => exact .inr ⟨e', rfl⟩
    | ok ix =>
      left
      exact indexed_eq_error_iff.2 (.inr ⟨⟨ix, hnow⟩, misplaced?_edit hrules x⟩)

/-! ### Whole sessions -/

theorem edits_append (d : Draft) (xs ys : List Edit) : d.edits (xs ++ ys) = (d.edits xs).edits ys :=
  List.foldl_append

theorem enter_edits (h : enter .empty 0 d.types = .error e) (xs : List Edit) :
    enter .empty 0 (d.edits xs).types = .error e := by
  induction xs generalizing d with
  | nil => exact h
  | cons x xs ih => exact ih (enter_edit h x)

/-- After any run of additions a faulty draft has the same first fault, or one that is
found with the types. -/
theorem indexed_edits (h : d.indexed = .error e) (xs : List Edit) :
    (d.edits xs).indexed = .error e ∨ ∃ e', enter .empty 0 (d.edits xs).types = .error e' := by
  induction xs generalizing d with
  | nil => exact .inl h
  | cons x xs ih =>
    rcases indexed_edit h x with hsame | ⟨e', htypes⟩
    · exact ih hsame
    · exact .inr ⟨e', enter_edits htypes xs⟩

end Draft

/-- A module that cannot be frozen at some point of a session can be frozen at no later
point.  If a declared type or one of its methods is at fault, the same error is reported
for ever, whatever is added.  If a marker of the module is, its error is reported until
a type at fault is declared. -/
theorem failure_is_permanent (d : Draft) (session more : List Draft.Edit) (e : DraftError)
    (hfailed : (d.edits session).freeze = .error e) :
    ((d.edits session).HasTypeFault e →
      (d.edits (session ++ more)).freeze = .error e) ∧
    ((d.edits session).HasTypeFault e ∨ (d.edits session).HasRuleFault e) ∧
    ∃ e', (d.edits (session ++ more)).freeze = .error e' ∧
      (e' = e ∨ (d.edits (session ++ more)).HasTypeFault e') := by
  rw [Draft.freeze_eq_error_iff] at hfailed
  simp only [Draft.freeze_eq_error_iff, Draft.edits_append]
  refine ⟨?_, ?_, ?_⟩
  · intro htype
    rcases Draft.hasFault_of_indexed hfailed with ⟨htypes, -⟩ | ⟨hnone, -⟩
    · exact Draft.indexed_of_enter (Draft.enter_edits htypes more)
    · exact absurd htype (hnone e)
  · rcases Draft.hasFault_of_indexed hfailed with ⟨-, htype⟩ | ⟨-, hrule⟩
    · exact .inl htype
    · exact .inr hrule
  · rcases Draft.indexed_edits hfailed more with hsame | ⟨e', htypes⟩
    · exact ⟨e, hsame, .inl rfl⟩
    · exact ⟨e', Draft.indexed_of_enter htypes,
        .inr (Draft.hasTypeFault_of_enter htypes)⟩

namespace Repeated

/-- A class. -/
def clock : Declaration := Showcase.cls "App" "Clock"

/-- A marker that may not sit on the module, then a class that is declared twice. -/
def session : List Draft.Edit := [.addRule (.bare .register), .declare clock, .declare clock]

/-- What is declared afterwards: another class, with a misplaced marker, and a bulk rule. -/
def more : List Draft.Edit :=
  [.declare { Showcase.cls "App" "Order" with markers := [.bare .registerAll] },
    .addRule (.bare .registerAll)]

end Repeated

/-- The marker is reported until the class is repeated, and then the class for ever. -/
theorem Repeated.reported :
    ((Draft.empty "App").edits (session.take 2)).freeze =
        .error (.misplacedMarker .register "App") ∧
      ((Draft.empty "App").edits session).freeze = .error (.duplicateType "App.Clock") ∧
      ((Draft.empty "App").edits (session ++ more)).freeze =
        .error (.duplicateType "App.Clock") := by
  have hmarker : ((Draft.empty "App").edits (session.take 2)).freeze =
      .error (.misplacedMarker .register "App") := Draft.freeze_eq_error_iff.2 (by decide)
  have hclass : ((Draft.empty "App").edits session).freeze =
      .error (.duplicateType "App.Clock") := Draft.freeze_eq_error_iff.2 (by decide)
  have hcause : ((Draft.empty "App").edits session).HasTypeFault (.duplicateType "App.Clock") :=
    ⟨[clock], clock, [], rfl, .duplicate List.mem_cons_self⟩
  exact ⟨hmarker, hclass, (failure_is_permanent _ session more _ hclass).1 hcause⟩

end InjectionPlan
