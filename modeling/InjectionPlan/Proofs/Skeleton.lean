import InjectionPlan.Block.Basic
import InjectionPlan.Expansion
import InjectionPlan.Proofs.BaseWalk
import InjectionPlan.Proofs.InterfaceWalk

/-! # What a type shows to others

    The skeleton of a declared type is the type without its methods and markers.  The
    rest of the module sees no more of it: the walks follow its interfaces and its base,
    and a bulk rule reads the skeletons of its candidates
    (`Rule.readsSkeleton_registrationsOf`).

    Two modules look alike if each reference finds the same skeleton in both, or nothing
    in both.  In such modules
    - the walks from a type come to the same references (`Snapshot.interfacesOf_congr`,
      `Snapshot.basesOf_congr`),
    - a rule makes the same registrations of a type (`Rule.registrationsOf_congr`),
    - a type has the same block (`Block.of_congr`).  This is made of the type's own methods
      and markers, but it reads of the other types only what they inherit.
-/

namespace InjectionPlan

variable {s s' : Snapshot} {d d' : Declaration} {settings : Settings} {h : Host}

/-! ### Skeletons -/

namespace Declaration

/-- The declaration without its methods and markers. -/
def skeleton (d : Declaration) : Declaration := { d with methods := [], markers := [] }

/-- The function reads no method and no marker of a declaration. -/
def ReadsSkeleton {α : Type} (f : Declaration → α) : Prop := ∀ d : Declaration, f d = f d.skeleton

theorem ReadsSkeleton.congr {α : Type} {f : Declaration → α} (hf : ReadsSkeleton f)
    (hskel : d.skeleton = d'.skeleton) : f d = f d' := by
  rw [hf d, hskel, ← hf d']

end Declaration

open Declaration (ReadsSkeleton)

theorem BaseChain.readsSkeleton_above (used : List String) (t : TypeExpr) :
    ReadsSkeleton (above s used · t) := by
  intro d
  show above s used d t = above s used d.skeleton t
  have hbase : d.baseAt t = d.skeleton.baseAt t := rfl
  rw [above, above, hbase]

theorem Snapshot.readsSkeleton_basesOf : ReadsSkeleton s.basesOf := fun d =>
  congrArg BaseChain.bases (BaseChain.readsSkeleton_above [d.key] d.self d)

/-- A rule reads the skeletons of its candidates. -/
theorem Rule.readsSkeleton_registrationsOf (r : Rule) : ReadsSkeleton (r.registrationsOf h s) := by
  intro d
  have hmatches : r.matchesOf h s d = r.matchesOf h s d.skeleton := by
    have hsearch : r.searchesBases s d = r.searchesBases s d.skeleton := rfl
    have hinterfaces : r.matchingInterfaces s d = r.matchingInterfaces s d.skeleton := rfl
    rw [matchesOf, matchesOf, hsearch, hinterfaces, matchingBase?, matchingBase?,
      Snapshot.readsSkeleton_basesOf d]
  have hregistration : r.registration? d = r.registration? d.skeleton := rfl
  rw [registrationsOf, registrationsOf, hmatches, hregistration]

/-! ### What looks up skeletons only -/

namespace Snapshot

/-- Each reference finds the same skeleton in both modules, or nothing in both. -/
def LooksLike (s s' : Snapshot) : Prop :=
  ∀ t, (s.find? t).map Declaration.skeleton = (s'.find? t).map Declaration.skeleton

theorem LooksLike.find?_cases (hlook : s.LooksLike s') (t : TypeExpr) :
    (s.find? t = none ∧ s'.find? t = none) ∨
      ∃ d d', s.find? t = some d ∧ s'.find? t = some d' ∧ d.skeleton = d'.skeleton := by
  have ht := hlook t
  cases hd : s.find? t with
  | none =>
    rw [hd, Option.map_none] at ht
    exact .inl ⟨rfl, Option.map_eq_none_iff.1 ht.symm⟩
  | some d =>
    rw [hd, Option.map_some] at ht
    obtain ⟨d', hd', hskel⟩ := Option.map_eq_some_iff.1 ht.symm
    exact .inr ⟨d, d', rfl, hd', hskel.symm⟩

end Snapshot

section Lookup

variable (hlook : s.LooksLike s')
include hlook

theorem InterfaceWalk.next_congr (w : InterfaceWalk) : next s w = next s' w := by
  unfold next
  cases w.pending with
  | nil => rfl
  | cons v rest =>
    rcases hlook.find?_cases v.type with ⟨hnone, hnone'⟩ | ⟨d, d', hd, hd', hskel⟩
    · simp only [visit, hnone, hnone']
    · have hexpand (w : InterfaceWalk) : w.expand v d = w.expand v d' :=
        ReadsSkeleton.congr (fun _ => rfl) hskel
      simp only [visit, hd, hd', hexpand]

theorem InterfaceWalk.finish_congr (w : InterfaceWalk) : finish s w = finish s' w := by
  -- the walk in `s` is finite; the one in `s'` goes through the same states
  induction w using finish.induct s with
  | case1 w hw => rw [finish, dif_pos hw, finish, dif_pos hw]
  | case2 w hw ih => rw [finish, dif_neg hw, ih, next_congr hlook, finish_next]

theorem InterfaceWalk.run_congr : run s d = run s' d := finish_congr hlook (start d)

theorem Snapshot.interfacesOf_congr : s.interfacesOf d = s'.interfacesOf d :=
  congrArg InterfaceWalk.found (InterfaceWalk.run_congr hlook)

theorem BaseChain.above_congr (used : List String) (d : Declaration) (t : TypeExpr) :
    above s used d t = above s' used d t := by
  induction used, d, t using above.induct s with
  | case1 used d t hbase => rw [above, above, hbase]
  | case2 used d t b hbase hused =>
    -- the base closes a cycle
    rw [above, above, hbase]
    simp only [dif_pos hused]
  | case3 used d t b hbase hused hnone =>
    have hnone' : s'.find? b = none := by
      rw [← Option.map_eq_none_iff, ← hlook b, hnone, Option.map_none]
    rw [above_of_base hbase hused, above_of_base hbase hused, hnone, hnone']
  | case4 used d t b hbase hused e he ih =>
    rw [above_of_base hbase hused, above_of_base hbase hused]
    rcases hlook.find?_cases b with ⟨hnone, -⟩ | ⟨f, e', hf, he', hskel⟩
    · rw [hnone] at he
      cases he
    · obtain rfl : f = e := Option.some_inj.1 (hf.symm.trans he)
      have hsame := (readsSkeleton_above (s := s') (b.familyName :: used) b).congr hskel
      rw [hf, he']
      exact congrArg (cons b) (ih.trans hsame)

theorem Snapshot.basesOf_congr : s.basesOf d = s'.basesOf d :=
  congrArg BaseChain.bases (BaseChain.above_congr hlook [d.key] d d.self)

theorem Declaration.isComposedBy_congr : d.isComposedBy h s = d.isComposedBy h s' := by
  have himplements : s.implements d = s'.implements d := by
    funext contract
    rw [Snapshot.implements, Snapshot.implements, Snapshot.interfacesOf_congr hlook]
  rw [isComposedBy, isComposedBy, himplements]

theorem Settlement.of_congr : of h s d = of h s' d := by
  funext c
  rw [of, of, d.isComposedBy_congr hlook, InterfaceWalk.run_congr hlook]

/-- A type has the same block in all modules that look alike. -/
theorem Block.of_congr : of settings s d = of settings s' d := by
  rw [of, of, full, full, Settlement.of_congr hlook]

theorem Rule.isInterface_congr (r : Rule) : r.isInterface s = r.isInterface s' := by
  rcases hlook.find?_cases r.contract with ⟨hnone, hnone'⟩ | ⟨e, e', he, he', hskel⟩
  · rw [isInterface, isInterface, hnone, hnone']
  · have hkind : e.isInterface = e'.isInterface := ReadsSkeleton.congr (fun _ => rfl) hskel
    rw [isInterface, isInterface, he, he']
    exact hkind

theorem Rule.matchingInterfaces_congr (r : Rule) :
    r.matchingInterfaces s d = r.matchingInterfaces s' d := by
  rw [matchingInterfaces, matchingInterfaces, Snapshot.interfacesOf_congr hlook]

theorem Rule.searchesBases_congr (r : Rule) : r.searchesBases s d = r.searchesBases s' d := by
  rw [searchesBases, searchesBases, r.isInterface_congr hlook, r.matchingInterfaces_congr hlook]

/-- A rule registers a type alike in all modules that look alike. -/
theorem Rule.registrationsOf_congr (r : Rule) :
    r.registrationsOf h s d = r.registrationsOf h s' d := by
  have hmatches : r.matchesOf h s d = r.matchesOf h s' d := by
    rw [matchesOf, matchesOf, r.searchesBases_congr hlook, r.matchingInterfaces_congr hlook,
      matchingBase?, matchingBase?, Snapshot.basesOf_congr hlook]
  rw [registrationsOf, registrationsOf, hmatches]

end Lookup

end InjectionPlan
