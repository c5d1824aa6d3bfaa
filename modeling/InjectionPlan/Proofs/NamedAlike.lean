import Mathlib.Data.List.Forall2
import InjectionPlan.Proofs.Names

/-! # References that are named alike

    Visited references, look-ups and bulk rules all go by rendered names.  They mix up
    nothing if a name says which reference it is the name of.

    A well-formed name can be read back, but only down to the definition names of its
    parts.  A definition name joins namespace and simple name by a dot, and it does not
    show which dot that is: `Orders.Store` in `App` is written like `Store` in
    `App.Orders`.  In a *legible* reference no simple name holds a dot, so the namespace
    ends at the last one.

    Then two references have the same qualified name exactly if they differ in the kinds
    of their parts at most (`qualifiedName_identifies`).
-/

namespace InjectionPlan

/-! ### Where a namespace ends -/

namespace TypeHead

variable {h k : TypeHead}

/-- The heads have the same namespace and the same simple name. -/
def SameName (h k : TypeHead) : Prop := h.ns = k.ns ∧ h.name = k.name

theorem SameName.definitionName_eq (hsame : h.SameName k) :
    h.definitionName = k.definitionName := by
  rw [definitionName, definitionName, hsame.1, hsame.2]

theorem ns_eq_of_qualifier_eq (heq : h.qualifier = k.qualifier) : h.ns = k.ns := by
  rw [qualifier, qualifier] at heq
  by_cases hh : h.ns.isEmpty
  · by_cases hk : k.ns.isEmpty
    · rw [String.isEmpty_iff.1 hh, String.isEmpty_iff.1 hk]
    · simp [hh, hk] at heq
  · by_cases hk : k.ns.isEmpty
    · simp [hh, hk] at heq
    · rw [if_neg hh, if_neg hk] at heq
      exact String.toList_inj.1 (List.append_cancel_right heq)

/-- The name is well-formed, and the simple name holds no dot. -/
def Legible (h : TypeHead) : Prop := h.WellNamed ∧ '.' ∉ h.name.toList

instance : DecidablePred Legible :=
  fun h => inferInstanceAs (Decidable (h.WellNamed ∧ '.' ∉ h.name.toList))

/-- The last dot of a legible definition name ends the namespace. -/
theorem sameName_of_definitionName_eq (hh : h.Legible) (hk : k.Legible)
    (heq : h.definitionName = k.definitionName) : h.SameName k := by
  have dotless {h : TypeHead} (hh : h.Legible) :
      ∀ c ∈ h.name.toList.reverse, (c == '.') = false := by
    intro c hc
    rw [beq_eq_false_iff_ne]
    rintro rfl
    exact hh.2 (List.mem_reverse.1 hc)
  have ends_in_dot (h : TypeHead) : ∀ c ∈ h.qualifier.reverse.head?, (c == '.') = true := by
    intro c hc
    rw [qualifier] at hc
    split at hc
    · cases hc
    · obtain rfl : '.' = c := by simpa using hc
      rfl
  -- read from the end, the simple name goes up to the first dot, where the qualifier begins
  have hlists := congrArg (fun s : String => s.toList.reverse) heq
  simp only [TypeExpr.toList_definitionName, List.reverse_append] at hlists
  obtain ⟨hname, hqualifier⟩ := TypeExpr.append_inj_of_boundary (dotless hh) (dotless hk)
    (ends_in_dot h) (ends_in_dot k) hlists
  exact ⟨ns_eq_of_qualifier_eq (List.reverse_inj.1 hqualifier),
    String.toList_inj.1 (List.reverse_inj.1 hname)⟩

end TypeHead

namespace TypeExpr

variable {t u : TypeExpr}

/-! ### Legible references -/

/-- The head of the part is legible, and its own brackets are not empty. -/
def PartLegible (u : TypeExpr) : Prop := u.head.Legible ∧ u.hasEmptyBrackets = false

instance : DecidablePred PartLegible :=
  fun u => inferInstanceAs (Decidable (u.head.Legible ∧ u.hasEmptyBrackets = false))

/-- All names in the expression can be read back, and the namespaces in them too. -/
def Legible : TypeExpr → Prop := Every PartLegible

instance : DecidablePred Legible := inferInstanceAs (DecidablePred (Every PartLegible))

/-- What is built of legible references under a legible head is legible. -/
theorem legible_apply_iff {h : TypeHead} {as : List TypeExpr} :
    (apply h as).Legible ↔ h.Legible ∧ ∀ a ∈ as, a.Legible := by
  unfold apply
  split
  · rename_i has
    obtain rfl := List.isEmpty_iff.1 has
    simp [Legible, every_plain, PartLegible, head, hasEmptyBrackets]
  · rename_i has
    simp [Legible, every_applied, PartLegible, head, hasEmptyBrackets, has]

theorem legible_erase_iff {h : TypeHead} {n : UInt64} : (erase h n).Legible ↔ h.Legible := by
  unfold erase
  split
  · simp [Legible, every_plain, PartLegible, head, hasEmptyBrackets]
  · rename_i hn
    simp [Legible, every_erased, PartLegible, head, hasEmptyBrackets, hn]

theorem Legible.wellNamed (ht : t.Legible) : t.WellNamed := ht.imp fun _ hu => ⟨hu.1.1, hu.2⟩

theorem Legible.sameName (ht : t.Legible) (hu : u.Legible)
    (hname : t.definitionName = u.definitionName) : t.head.SameName u.head :=
  TypeHead.sameName_of_definitionName_eq ht.self.1 hu.self.1 hname

/-! ### References that differ in kinds -/

/-- The expressions have the same form, with the same namespaces and simple names all over
and the same numbers of erased arguments.  They differ in the kinds of their parts at
most. -/
inductive SameButKinds : TypeExpr → TypeExpr → Prop
  /-- Both are plain. -/
  | plain {h k : TypeHead} : h.SameName k → SameButKinds (plain h) (plain k)
  /-- Both are applied, and their arguments differ in kinds at most. -/
  | applied {h k : TypeHead} {as bs : List TypeExpr} :
    h.SameName k → List.Forall₂ SameButKinds as bs → SameButKinds (applied h as) (applied k bs)
  /-- Both are erased. -/
  | erased {h k : TypeHead} {n : UInt64} : h.SameName k → SameButKinds (erased h n) (erased k n)

/-- Lists of equal names have equally named members at the same places. -/
theorem map_qualifiedName_eq_iff {as bs : List TypeExpr} :
    as.map qualifiedName = bs.map qualifiedName ↔
      List.Forall₂ (fun a b => a.qualifiedName = b.qualifiedName) as bs := by
  rw [← List.forall₂_eq_eq_eq, List.forall₂_map_left_iff, List.forall₂_map_right_iff]

/-- Lists that are related member by member are so by each relation that follows for their
members. -/
theorem forall₂_imp_of_mem {p q : TypeExpr → TypeExpr → Prop} {as bs : List TypeExpr}
    (himp : ∀ a ∈ as, ∀ b ∈ bs, p a b → q a b) (h : List.Forall₂ p as bs) :
    List.Forall₂ q as bs := by
  obtain ⟨hlen, hzip⟩ := List.forall₂_iff_zip.1 h
  refine List.forall₂_iff_zip.2 ⟨hlen, ?_⟩
  intro a b hab
  obtain ⟨ha, hb⟩ := List.of_mem_zip hab
  exact himp a ha b hb (hzip hab)

/-- Kinds are not written. -/
theorem SameButKinds.qualifiedName_eq (h : t.SameButKinds u) :
    t.qualifiedName = u.qualifiedName := by
  induction t generalizing u with
  | plain =>
    cases h with
    | plain hsame => exact hsame.definitionName_eq
  | applied _ as ih =>
    cases h with
    | @applied _ _ _ bs hsame hargs =>
      have hnames : as.map qualifiedName = bs.map qualifiedName :=
        map_qualifiedName_eq_iff.2 (forall₂_imp_of_mem (fun a ha b _ hab => ih a ha hab) hargs)
      rw [qualifiedName, qualifiedName, hsame.definitionName_eq, joinedNames_congr hnames]
  | erased =>
    cases h with
    | erased hsame => rw [qualifiedName, qualifiedName, hsame.definitionName_eq]

/-- The number of arguments and the written ones tell the form, as no brackets are empty. -/
theorem SameButKinds.of_parts (ht : t.hasEmptyBrackets = false) (hu : u.hasEmptyBrackets = false)
    (hhead : t.head.SameName u.head) (harity : t.arity = u.arity)
    (hargs : List.Forall₂ SameButKinds t.args u.args) : t.SameButKinds u := by
  cases t with
  | plain h =>
    cases u with
    | plain k => exact .plain hhead
    | applied k bs => exact absurd harity.symm (Nat.ne_of_gt (arity_pos hu (by simp)))
    | erased k n => exact absurd harity.symm (Nat.ne_of_gt (arity_pos hu (by simp)))
  | applied h as =>
    have has : as ≠ [] := by simpa [hasEmptyBrackets] using ht
    cases u with
    | plain k => exact (has (List.forall₂_nil_right_iff.1 hargs)).elim
    | applied k bs => exact .applied hhead hargs
    | erased k n => exact (has (List.forall₂_nil_right_iff.1 hargs)).elim
  | erased h n =>
    cases u with
    | plain k => exact absurd harity (Nat.ne_of_gt (arity_pos ht (by simp)))
    | applied k bs =>
      have hbs : bs ≠ [] := by simpa [hasEmptyBrackets] using hu
      exact (hbs (List.forall₂_nil_left_iff.1 hargs)).elim
    | erased k m =>
      obtain rfl : n = m := UInt64.toNat_inj.1 harity
      exact .erased hhead

/-- A legible name shows all but the kinds. -/
theorem Legible.sameButKinds (ht : t.Legible) (hu : u.Legible)
    (hname : t.qualifiedName = u.qualifiedName) : t.SameButKinds u := by
  induction t using argsInduction generalizing u with
  | ofArgs t ih =>
    obtain ⟨hdef, harity, hnames⟩ := parts_eq_of_qualifiedName_eq ht.wellNamed hu.wellNamed hname
    have hargs : List.Forall₂ SameButKinds t.args u.args := by
      refine forall₂_imp_of_mem ?_ (map_qualifiedName_eq_iff.1 hnames)
      intro a ha b hb hab
      exact ih a ha (ht.args a ha) (hu.args b hb) hab
    exact .of_parts ht.self.2 hu.self.2 (ht.sameName hu hdef) harity hargs

end TypeExpr

open TypeExpr

/-- Let two references be built of well-formed names, with no dot in a simple name.  They
have the same qualified name exactly if they differ in kinds at most: they have the same
form, with the same namespaces and simple names all over and as many arguments.  They have
the same family name then. -/
theorem qualifiedName_identifies {t u : TypeExpr} (ht : t.Legible) (hu : u.Legible) :
    (t.qualifiedName = u.qualifiedName ↔ t.SameButKinds u) ∧
    (t.qualifiedName = u.qualifiedName → t.familyName = u.familyName) := by
  refine ⟨⟨ht.sameButKinds hu, SameButKinds.qualifiedName_eq⟩, ?_⟩
  exact familyName_eq_of_qualifiedName_eq ht.wellNamed hu.wellNamed

namespace Depots

/-- An erased pair. -/
def pair : TypeExpr := .erase ⟨"App", "Pair", .structType⟩ 2

/-- A crate of something. -/
def crate (item : TypeHead) : TypeExpr := .apply ⟨"App", "Crate", .classType⟩ [.plain item]

/-- A depot of something, of pairs and of crates. -/
def depot (item : TypeHead) : TypeExpr :=
  .apply ⟨"App.Stock", "IDepot", .interfaceType⟩ [.plain item, pair, crate item]

/-- A type parameter. -/
def parameter : TypeHead := ⟨"", "T", .parameter⟩

/-- A class of the same name outside of all namespaces. -/
def namesake : TypeHead := ⟨"", "T", .classType⟩

end Depots

/-- A depot over a type parameter is written like one over a class of this name. -/
theorem Depots.written_alike :
    ((depot parameter).Legible ∧ (depot namesake).Legible) ∧
    (depot parameter).qualifiedName = "App.Stock.IDepot<T, App.Pair<,>, App.Crate<T>>" ∧
    (depot parameter).SameButKinds (depot namesake) ∧
    (depot parameter).familyName = (depot namesake).familyName := by
  have legible_depot {item : TypeHead} (hitem : item.Legible) : (depot item).Legible := by
    have hplain : (plain item).Legible := .plain ⟨hitem, rfl⟩
    have hpair : pair.Legible := legible_erase_iff.2 (by decide)
    have hcrate : (crate item).Legible := legible_apply_iff.2 ⟨by decide, by simpa using hplain⟩
    exact legible_apply_iff.2 ⟨by decide, by simp [hplain, hpair, hcrate]⟩
  have hparameter : (depot parameter).Legible := legible_depot (by decide)
  have hnamesake : (depot namesake).Legible := legible_depot (by decide)
  have hname : (depot parameter).qualifiedName = (depot namesake).qualifiedName := by decide
  obtain ⟨halike, hfamily⟩ := qualifiedName_identifies hparameter hnamesake
  exact ⟨⟨hparameter, hnamesake⟩, by decide, halike.1 hname, hfamily hname⟩

/-- With a dot in a simple name it is open where the namespace ends. -/
example : (plain ⟨"App", "Stock.Crate", .classType⟩).qualifiedName =
    (plain ⟨"App.Stock", "Crate", .classType⟩).qualifiedName := by
  decide

end InjectionPlan
