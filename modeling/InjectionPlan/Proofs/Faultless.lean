import InjectionPlan.Snapshot
import Mathlib.Data.List.Nodup
import Mathlib.Data.List.Perm.Subperm

/-! # What a snapshot ensures

    A draft is checked and indexed type by type, and this ends at the first fault.  All
    types are entered exactly if the draft is *well-formed*: no key is declared twice, and
    every marker sits where its kind may sit (`Draft.exists_indexed_eq_ok_iff`).

    So in a snapshot all markers sit where they may sit, and the own name of a declared
    type leads back to its declaration (`Snapshot.find?_self`).
-/

namespace InjectionPlan

variable {s : Snapshot} {d t : Declaration} {m : Marker} {ix : Index}

/-! ### Where markers sit -/

theorem MarkerKind.fitsType_iff {k : MarkerKind} :
    k.fitsType = true ↔ k = .register ∨ k = .decorate := by
  cases k <;> simp [fitsType]

theorem MarkerKind.fitsMethod_iff {k : MarkerKind} :
    k.fitsMethod = true ↔ k = .registrationExtension := by
  cases k <;> simp [fitsMethod]

theorem MarkerKind.fitsModule_iff {k : MarkerKind} : k.fitsModule = true ↔ k = .registerAll := by
  cases k <;> simp [fitsModule]

/-- The markers of the type and of its methods sit where they may sit. -/
structure Declaration.FitlyMarked (t : Declaration) : Prop where
  /-- A marker of the type asks to register it or to decorate with it. -/
  onType : ∀ m ∈ t.markers, m.kind = .register ∨ m.kind = .decorate
  /-- A marker of a method makes it a hook. -/
  onMethods : ∀ f ∈ t.methods, ∀ m ∈ f.markers, m.kind = .registrationExtension

/-! ### Well-formed drafts -/

namespace Draft

/-- Nothing is wrong with what is declared. -/
structure WellFormed (d : Draft) : Prop where
  /-- No two types have the same key. -/
  keys : (d.types.map Declaration.key).Nodup
  /-- The markers of the types and of their methods sit where they may sit. -/
  types : ∀ t ∈ d.types, t.FitlyMarked
  /-- The markers of the module are bulk rules. -/
  rules : ∀ m ∈ d.rules, m.kind = .registerAll

theorem misplaced?_eq_none_iff {fits : MarkerKind → Bool} {target : String} {ms : List Marker} :
    misplaced? fits target ms = none ↔ ∀ m ∈ ms, fits m.kind = true := by
  simp [misplaced?]

/-- No fault is found in a type with a new key whose markers sit where they may sit. -/
theorem typeFault?_eq_none_iff {ks : List String} (hix : ix.Agrees ks) :
    typeFault? ix t = none ↔ t.key ∉ ks ∧ t.FitlyMarked := by
  have hmethods : t.methods.findSome? (methodFault? t) = none ↔
      ∀ f ∈ t.methods, ∀ m ∈ f.markers, m.kind = .registrationExtension := by
    simp only [List.findSome?_eq_none_iff, methodFault?, misplaced?_eq_none_iff,
      MarkerKind.fitsMethod_iff]
  by_cases hkey : t.key ∈ ks
  · rw [typeFault?, if_pos (hix.isSome_position?_iff.2 hkey)]
    simp [hkey]
  · rw [typeFault?, if_neg (mt hix.isSome_position?_iff.1 hkey), Option.or_eq_none_iff,
      misplaced?_eq_none_iff, hmethods]
    simp only [MarkerKind.fitsType_iff]
    exact ⟨fun h => ⟨hkey, h.1, h.2⟩, fun h => ⟨h.2.onType, h.2.onMethods⟩⟩

/-- Types can be entered after those before them exactly if no key is declared twice by all
of them and the markers of the new ones sit where they may sit. -/
theorem exists_enter_eq_ok_iff {before ts : List Declaration}
    (hix : ix.Agrees (before.map Declaration.key)) :
    (∃ ix', enter ix before.length ts = .ok ix') ↔
      ((before ++ ts).map Declaration.key).Nodup ∧ ∀ t ∈ ts, t.FitlyMarked := by
  induction ts generalizing ix before with
  | nil =>
    rw [List.append_nil]
    exact ⟨fun _ => ⟨hix.nodup, nofun⟩, fun _ => ⟨ix, rfl⟩⟩
  | cons t ts ih =>
    constructor
    · rintro ⟨ix', hentered⟩
      obtain ⟨hfault, -⟩ := enter_cons_eq_ok_iff.1 hentered
      obtain ⟨-, hfit⟩ := (typeFault?_eq_none_iff hix).1 hfault
      rw [enter_cons_of_typeFault? hfault] at hentered
      obtain ⟨hnodup, hrest⟩ := (ih (agrees_insert_of_typeFault? hix hfault)).1 ⟨ix', hentered⟩
      rw [List.append_cons]
      exact ⟨hnodup, List.forall_mem_cons.2 ⟨hfit, hrest⟩⟩
    · rintro ⟨hnodup, hall⟩
      obtain ⟨hfit, hrest⟩ := List.forall_mem_cons.1 hall
      have hnew : t.key ∉ before.map Declaration.key := by
        rw [List.map_append, List.nodup_append] at hnodup
        intro hmem
        exact hnodup.2.2 _ hmem t.key (by simp) rfl
      have hfault := (typeFault?_eq_none_iff hix).2 ⟨hnew, hfit⟩
      rw [enter_cons_of_typeFault? hfault, ih (agrees_insert_of_typeFault? hix hfault),
        ← List.append_cons]
      exact ⟨hnodup, hrest⟩

theorem exists_indexed_eq_ok_iff {d : Draft} : (∃ ix, d.indexed = .ok ix) ↔ d.WellFormed := by
  have htypes : (∃ ix, enter .empty 0 d.types = .ok ix) ↔
      (d.types.map Declaration.key).Nodup ∧ ∀ t ∈ d.types, t.FitlyMarked :=
    exists_enter_eq_ok_iff agrees_start
  simp only [indexed_eq_ok_iff, exists_and_right, misplaced?_eq_none_iff, MarkerKind.fitsModule_iff,
    htypes]
  exact ⟨fun h => ⟨h.1.1, h.1.2, h.2⟩, fun h => ⟨⟨h.keys, h.types⟩, h.rules⟩⟩

end Draft

/-! ### Look-ups in a snapshot -/

namespace Snapshot

theorem wellFormed (s : Snapshot) : s.toDraft.WellFormed :=
  Draft.exists_indexed_eq_ok_iff.1 ⟨s.index, s.faultless⟩

/-- There are no more keys than declared types. -/
theorem length_le_of_keys {ks : List String} (hnodup : ks.Nodup) (hkeys : ∀ k ∈ ks, k ∈ s.keys) :
    ks.length ≤ s.types.length := by
  have hle := (List.subperm_of_subset hnodup hkeys).length_le
  simpa [keys] using hle

/-- A reference finds nothing if no declared type has its key. -/
theorem find?_eq_none_iff {t : TypeExpr} :
    s.find? t = none ↔ ∀ d ∈ s.types, d.key ≠ t.familyName := by
  simp [Option.eq_none_iff_forall_ne_some, find?_eq_some_iff]

/-- A declared type is found by its own name. -/
theorem find?_self (hd : d ∈ s.types) : s.find? d.self = some d := find?_eq_some_iff.2 ⟨hd, rfl⟩

/-- The rules of a module are bulk rules. -/
theorem kind_of_mem_rules (hm : m ∈ s.rules) : m.kind = .registerAll := s.wellFormed.rules m hm

end Snapshot

end InjectionPlan
