import InjectionPlan.Proofs.Faultless
import InjectionPlan.Showcase.Shop

/-! # Which drafts can be frozen

    A draft is built by additions, and each of them comes behind what was added before
    (`Draft.edits_eq`).  So a session says which types and which rules a draft has, and
    in which order, however the two are mixed.

    The draft can be frozen exactly if it is well-formed.  The snapshot holds all that
    was declared as it was declared, and its index leads from each key to the type that
    was declared under it.  So a reference, be it plain, applied or erased, finds the one
    declaration that shares its family name (`freeze_exact`).
-/

namespace InjectionPlan

namespace Draft

/-- The type that is declared, if the addition declares one. -/
def Edit.type? : Edit → Option Declaration
  | .declare t => some t
  | .addRule _ => none

/-- The marker that is put on the module, if the addition puts one. -/
def Edit.rule? : Edit → Option Marker
  | .declare _ => none
  | .addRule m => some m

/-- One addition comes behind what is there. -/
theorem edit_eq (d : Draft) (e : Edit) :
    d.edit e = ⟨d.name, d.types ++ e.type?.toList, d.rules ++ e.rule?.toList⟩ := by
  cases e with
  | declare t => simp [edit, declare, Edit.type?, Edit.rule?]
  | addRule m => simp [edit, addRule, Edit.type?, Edit.rule?]

/-- A session adds its types and its rules in their order. -/
theorem edits_eq (d : Draft) (es : List Edit) :
    d.edits es =
      ⟨d.name, d.types ++ es.filterMap Edit.type?, d.rules ++ es.filterMap Edit.rule?⟩ := by
  induction es generalizing d with
  | nil => simp [edits]
  | cons e es ih =>
    have hnext : d.edits (e :: es) = (d.edit e).edits es := rfl
    rw [hnext, ih, edit_eq]
    cases e <;> simp [List.filterMap_cons, Edit.type?, Edit.rule?]

theorem exists_freeze_eq_ok_iff {d : Draft} : (∃ s, d.freeze = .ok s) ↔ d.WellFormed := by
  rw [← exists_indexed_eq_ok_iff]
  constructor
  · rintro ⟨s, hs⟩
    rw [← freeze_eq_ok_iff.1 hs]
    exact ⟨s.index, s.faultless⟩
  · rintro ⟨ix, hix⟩
    exact ⟨⟨d, ix, hix⟩, freeze_eq_ok_iff.2 rfl⟩

end Draft

/-- Let a module declare types and rules, in any session that declares them in this order.
It can be frozen exactly if no two types have the same key and all markers sit where
their kinds may sit.  The snapshot then has these types and rules in this order, and its
index leads a key to a position exactly if the type there has the key.  Any reference
finds the type whose key is the family name of the reference, and nothing if there is
none. -/
theorem freeze_exact (name : String) (types : List Declaration) (rules : List Marker) :
    (∀ es : List Draft.Edit, es.filterMap Draft.Edit.type? = types →
      es.filterMap Draft.Edit.rule? = rules →
        (Draft.empty name).edits es = ⟨name, types, rules⟩) ∧
    ((∃ s, Draft.freeze ⟨name, types, rules⟩ = .ok s) ↔
      Draft.WellFormed ⟨name, types, rules⟩) ∧
    ∀ s, Draft.freeze ⟨name, types, rules⟩ = .ok s →
      s.name = name ∧ s.types = types ∧ s.rules = rules ∧
        s.index.Agrees (types.map Declaration.key) ∧
        ∀ r : TypeExpr,
          (∀ t, s.find? r = some t ↔ t ∈ types ∧ t.key = r.familyName) ∧
          (s.find? r = none ↔ ∀ t ∈ types, t.key ≠ r.familyName) := by
  refine ⟨?_, Draft.exists_freeze_eq_ok_iff, ?_⟩
  · rintro es rfl rfl
    rw [Draft.edits_eq]
    simp [Draft.empty]
  · intro s hs
    have hdraft : s.toDraft = ⟨name, types, rules⟩ := Draft.freeze_eq_ok_iff.1 hs
    have htypes : s.types = types := congrArg Draft.types hdraft
    rw [← htypes]
    refine ⟨congrArg Draft.name hdraft, rfl, congrArg Draft.rules hdraft, s.agrees, ?_⟩
    intro r
    exact ⟨fun t => Snapshot.find?_eq_some_iff, Snapshot.find?_eq_none_iff⟩

namespace Shelf

/-- A shelf for something. -/
def shelf : Declaration := { Showcase.blank "App" "IShelf" .interfaceType with params := ["T"] }

/-- A shelf of the same name for something under a key. -/
def keyed : Declaration :=
  { Showcase.blank "App" "IShelf" .interfaceType with params := ["K", "T"] }

/-- A class that is registered and has a hook. -/
def store : Declaration :=
  { Showcase.cls "App" "Store" with
    markers := [.bare .register, .bare .decorate]
    methods := [Showcase.hook "Fill" true] }

/-- The rule to register all shelves. -/
def rule : Marker := .bulkByPosition (.erase ⟨"App", "IShelf", .interfaceType⟩ 1)

/-- The rule is put on the module before the last type is declared. -/
def session : List Draft.Edit :=
  [.declare shelf, .declare keyed, .addRule rule, .declare store]

/-- The shelf of orders. -/
def orders : TypeExpr :=
  .apply ⟨"App", "IShelf", .interfaceType⟩ [.plain ⟨"App", "Order", .classType⟩]

end Shelf

/-- The session can be frozen.  The shelf of orders then finds the shelf with one
parameter, not the one with two, and the plain name finds neither. -/
theorem Shelf.frozen :
    (Draft.empty "App").edits session = ⟨"App", [shelf, keyed, store], [rule]⟩ ∧
    (∃ s, Draft.freeze ⟨"App", [shelf, keyed, store], [rule]⟩ = .ok s) ∧
    ∀ s, Draft.freeze ⟨"App", [shelf, keyed, store], [rule]⟩ = .ok s →
      s.find? orders = some shelf ∧
      s.find? (.erase ⟨"App", "IShelf", .interfaceType⟩ 2) = some keyed ∧
      s.find? (.plain ⟨"App", "IShelf", .interfaceType⟩) = none := by
  obtain ⟨hsession, hfreezes, hfrozen⟩ := freeze_exact "App" [shelf, keyed, store] [rule]
  have hwell : Draft.WellFormed ⟨"App", [shelf, keyed, store], [rule]⟩ := by
    refine ⟨by decide, ?_, by decide⟩
    intro t ht
    exact ⟨by revert t; decide, by revert t; decide⟩
  refine ⟨hsession session rfl rfl, hfreezes.2 hwell, ?_⟩
  intro s hs
  obtain ⟨-, -, -, -, hfind⟩ := hfrozen s hs
  have hshelf : shelf ∈ [shelf, keyed, store] := by simp
  have hkeyed : keyed ∈ [shelf, keyed, store] := by simp
  exact ⟨((hfind _).1 _).2 ⟨hshelf, by decide⟩, ((hfind _).1 _).2 ⟨hkeyed, by decide⟩,
    (hfind _).2.2 (by decide)⟩

end InjectionPlan
