import InjectionPlan.Inheritance.Step
import InjectionPlan.Proofs.Names
import Mathlib.Data.List.Nodup

/-! # Chains of inheritance steps

    What a type inherits is what chains of steps lead to.  This module says what
    holds along a chain, whoever follows it:
    - what every reference of the module has in all its parts, every reference on a
      chain has (`Chain.every`);
    - equally named references take equally named steps (`Step.sameName`), if names
      can be read back;
    - in a module whose declarations can be ranked so that each inherits from lower
      ones only, no chain meets a declaration twice (`nonRecursive_of_rank`).
-/

namespace InjectionPlan

open TypeExpr

variable {s : Snapshot} {t u v : TypeExpr} {k : StepKind} {ks : List StepKind} {ts : List TypeExpr}

/-! ### Steps -/

/-- The declaration that a step starts from, and what the step takes from it. -/
theorem Step.exists_declaration (h : Step s k t u) :
    ∃ d, s.find? t = some d ∧ u ∈ d.inheritedAt t ∧ (k = .toInterface → u ∈ d.interfacesAt t) := by
  cases h with
  | @toInterface _ _ d hd hi =>
    exact ⟨d, hd, List.mem_append_left _ hi, fun _ => hi⟩
  | @toBase _ _ d hd hb =>
    exact ⟨d, hd, List.mem_append_right _ (by simp [hb]), fun h => by cases h⟩

theorem Step.exists_of_mem_inheritedAt {d : Declaration} (hd : s.find? t = some d)
    (hu : u ∈ d.inheritedAt t) : ∃ k, Step s k t u := by
  rcases List.mem_append.1 hu with hi | hb
  · exact ⟨_, .toInterface hd hi⟩
  · exact ⟨_, .toBase hd (by simpa using hb)⟩

/-- What a declaration hands on is written down in it. -/
theorem Declaration.exists_written {d : Declaration} (hu : u ∈ d.inheritedAt t) :
    ∃ x, (x ∈ d.interfaces ∨ d.base = some x) ∧ u = x.substitute (d.bindingAt t) := by
  rcases List.mem_append.1 hu with hi | hb
  · obtain ⟨x, hx, rfl⟩ := List.mem_map.1 hi
    exact ⟨x, .inl hx, rfl⟩
  · have hb : d.baseAt t = some u := by simpa using hb
    obtain ⟨x, hx, rfl⟩ := Option.map_eq_some_iff.1 hb
    exact ⟨x, .inr hx, rfl⟩

/-! ### Chains -/

/-- A chain can be made longer at its end. -/
theorem Chain.snoc (h : Chain s t ks ts u) (hs : Step s k u v) :
    Chain s t (ks ++ [k]) (ts ++ [u]) v := by
  induction h with
  | none u => exact .step hs (.none v)
  | step hs' _ ih => exact .step hs' (ih hs)

/-- The references that are expanded on a chain are forms of declared types. -/
theorem Chain.exists_declaration (h : Chain s t ks ts u) : ∀ x ∈ ts, ∃ e, s.find? x = some e := by
  induction h with
  | none => simp
  | step hstep _ ih =>
    intro x hx
    rcases List.mem_cons.1 hx with rfl | hx
    · obtain ⟨e, he, -⟩ := hstep.exists_declaration
      exact ⟨e, he⟩
    · exact ih x hx

theorem Chain.familyName_mem_keys (h : Chain s t ks ts u) :
    ∀ x ∈ ts, x.familyName ∈ s.keys := by
  intro x hx
  obtain ⟨e, he⟩ := h.exists_declaration x hx
  exact Snapshot.familyName_mem_keys he

/-- A chain of some steps begins with a step. -/
theorem Chain.exists_first_step (h : Chain s t ks ts u) (hks : ks ≠ []) :
    ∃ k v ks' ts', Step s k t v ∧ Chain s v ks' ts' u := by
  cases h with
  | none => exact absurd rfl hks
  | step hstep hrest => exact ⟨_, _, _, _, hstep, hrest⟩

/-- The reference `t` inherits the interface `u` by a chain of steps whose last one
leads to an interface.  The references `ts` are expanded on the way. -/
def Inherits (s : Snapshot) (t : TypeExpr) (ts : List TypeExpr) (u : TypeExpr) : Prop :=
  ∃ ks, Chain s t ks ts u ∧ ks.getLast? = some .toInterface

/-- An interface chain is a chain and one more step, which leads to the interface. -/
theorem Inherits.exists_chain_to_last (h : Inherits s t ts u) :
    ∃ ks us x, Chain s t ks us x ∧ Step s .toInterface x u ∧ ts = us ++ [x] := by
  obtain ⟨ks, hchain, hlast⟩ := h
  induction hchain with
  | none => cases hlast
  | @step t v u k ks ts hstep hrest ih =>
    cases hrest with
    | none =>
      obtain rfl : k = .toInterface := by simpa using hlast
      exact ⟨[], [], t, .none t, hstep, rfl⟩
    | step hstep' hrest' =>
      obtain ⟨ks', us, x, hchain, hxu, hts⟩ := ih (by simpa using hlast)
      exact ⟨_, t :: us, x, .step hstep hchain, hxu, by rw [hts, List.cons_append]⟩

/-- A chain and one more step to an interface make an interface chain. -/
theorem Chain.inherits (h : Chain s t ks ts u) (hs : Step s .toInterface u v) :
    Inherits s t (ts ++ [u]) v :=
  ⟨_, h.snoc hs, by simp⟩

/-- No declaration occurs twice among the references. -/
def Simple (ts : List TypeExpr) : Prop := (ts.map familyName).Nodup

/-- One more reference is a form of a new definition. -/
theorem simple_snoc_iff : Simple (ts ++ [u]) ↔ Simple ts ∧ u.familyName ∉ ts.map familyName := by
  rw [Simple, List.map_append, List.map_singleton, ← List.concat_eq_append, List.nodup_concat,
    and_comm]
  rfl

theorem Simple.of_prefix {us : List TypeExpr} (h : Simple us) (hts : ts <+: us) : Simple ts :=
  (hts.sublist.map familyName).nodup h

/-- No chain of steps from a declared type meets a declaration twice. -/
def Snapshot.NonRecursive (s : Snapshot) : Prop :=
  ∀ d ∈ s.types, ∀ ks ts u, Chain s d.self ks ts u → Simple (ts ++ [u])

/-! ### What holds of all references -/

/-- All references of the module have the property in all their parts. -/
structure Snapshot.Every (p : TypeExpr → Prop) (s : Snapshot) : Prop where
  /-- The declared types themselves. -/
  self : ∀ d ∈ s.types, d.self.Every p
  /-- The interfaces that they write down. -/
  interfaces : ∀ d ∈ s.types, ∀ i ∈ d.interfaces, i.Every p
  /-- Their bases. -/
  base : ∀ d ∈ s.types, ∀ b, d.base = some b → b.Every p

instance {p : TypeExpr → Prop} [DecidablePred p] : DecidablePred (Snapshot.Every p) := fun s =>
  decidable_of_iff
    (∀ d ∈ s.types, d.self.Every p ∧ (∀ i ∈ d.interfaces, i.Every p) ∧
      ∀ b ∈ d.base.toList, b.Every p)
    ⟨fun h => ⟨fun d hd => (h d hd).1, fun d hd => (h d hd).2.1,
      fun d hd b hb => (h d hd).2.2 b (by simp [hb])⟩,
    fun h d hd => ⟨h.self d hd, h.interfaces d hd, fun b hb => h.base d hd b (by simpa using hb)⟩⟩

/-- All names of the module can be read back. -/
def Snapshot.WellNamed (s : Snapshot) : Prop := s.Every PartWellNamed

instance : DecidablePred Snapshot.WellNamed :=
  inferInstanceAs (DecidablePred (Snapshot.Every PartWellNamed))

/-- No name of the module is unresolved. -/
def Snapshot.Unbroken (s : Snapshot) : Prop := s.Every fun u => u.isBroken = false

instance : DecidablePred Snapshot.Unbroken :=
  inferInstanceAs (DecidablePred (Snapshot.Every fun u => u.isBroken = false))

/-- A step keeps what all references of the module have in all their parts. -/
theorem Step.every {p : TypeExpr → Prop} (hp : Shallow p) (hs : s.Every p) (h : Step s k t u)
    (ht : t.Every p) : u.Every p := by
  obtain ⟨d, hd, hu, -⟩ := h.exists_declaration
  have hmem := Snapshot.mem_of_find? hd
  obtain ⟨x, hx, rfl⟩ := Declaration.exists_written hu
  have hwritten : x.Every p := by
    rcases hx with hx | hx
    · exact hs.interfaces d hmem x hx
    · exact hs.base d hmem x hx
  refine hwritten.substitute hp ?_
  intro b hb
  exact ht.args b.2 (List.of_mem_zip hb).2

theorem Chain.every {p : TypeExpr → Prop} (hp : Shallow p) (hs : s.Every p)
    (h : Chain s t ks ts u) (ht : t.Every p) : u.Every p := by
  induction h with
  | none => exact ht
  | step hstep _ ih => exact ih (hstep.every hp hs ht)

/-- In a well-named module all references on chains from a declared type are
well-named. -/
theorem Chain.wellNamed {d : Declaration} (hs : s.WellNamed) (hd : d ∈ s.types)
    (h : Chain s d.self ks ts u) : u.WellNamed :=
  h.every shallow_partWellNamed hs (hs.self d hd)

/-- In an unbroken module all references on chains from a declared type are resolved. -/
theorem Chain.not_isBroken {d : Declaration} (hs : s.Unbroken) (hd : d ∈ s.types)
    (h : Chain s d.self ks ts u) : u.isBroken = false := by
  have shallow : Shallow fun u => u.isBroken = false := fun _ _ _ _ h => h
  exact (h.every shallow hs (hs.self d hd)).self

/-! ### Equally named references -/

theorem Snapshot.find?_congr (h : t.familyName = u.familyName) : s.find? t = s.find? u := by
  rw [find?, find?, h]

/-- Equally named references bind the parameters to equally named arguments. -/
theorem Declaration.names_bindingAt (d : Declaration) (h : t.argNames = u.argNames) :
    (d.bindingAt t).names = (d.bindingAt u).names := by
  rw [bindingAt, bindingAt, Binding.names_of, Binding.names_of]
  exact congrArg _ h

/-- Equally named references take equally named steps. -/
theorem Step.sameName (ht : t.WellNamed) (hv : v.WellNamed)
    (hn : t.qualifiedName = v.qualifiedName) (h : Step s k t u) :
    ∃ w, Step s k v w ∧ w.qualifiedName = u.qualifiedName := by
  have hfind : s.find? t = s.find? v :=
    Snapshot.find?_congr (familyName_eq_of_qualifiedName_eq ht hv hn)
  have hargs := argNames_eq_of_qualifiedName_eq ht hv hn
  cases h with
  | @toInterface _ _ d hd hi =>
    obtain ⟨x, hx, rfl⟩ := List.mem_map.1 hi
    exact ⟨_, .toInterface (hfind ▸ hd) (List.mem_map_of_mem hx),
      qualifiedName_substitute_congr (d.names_bindingAt hargs.symm) x⟩
  | @toBase _ _ d hd hb =>
    obtain ⟨x, hx, rfl⟩ := Option.map_eq_some_iff.1 hb
    exact ⟨_, .toBase (hfind ▸ hd) (Option.map_eq_some_iff.2 ⟨x, hx, rfl⟩),
      qualifiedName_substitute_congr (d.names_bindingAt hargs.symm) x⟩

/-! ### Ranked modules -/

/-- Substitution does not change the definition that a reference is a form of. -/
theorem TypeExpr.familyName_substitute {σ : Binding} {x : TypeExpr} (hx : x.isParameter = false) :
    (x.substitute σ).familyName = x.familyName :=
  familyName_congr (definitionName_substitute hx) (arity_substitute hx)

/-- Each reference that the declaration inherits is a form of a lower one. -/
def Declaration.Ranked (rank : String → Nat) (d : Declaration) : Prop :=
  ∀ x ∈ d.interfaces ++ d.base.toList, x.isParameter = false ∧ rank x.familyName < rank d.key

instance {rank : String → Nat} : DecidablePred (Declaration.Ranked rank) := fun d =>
  inferInstanceAs (Decidable (∀ x ∈ d.interfaces ++ d.base.toList, _))

theorem Step.rank_lt {rank : String → Nat} (hr : ∀ d ∈ s.types, d.Ranked rank)
    (h : Step s k t u) : rank u.familyName < rank t.familyName := by
  obtain ⟨d, hd, hu, -⟩ := h.exists_declaration
  obtain ⟨x, hx, rfl⟩ := Declaration.exists_written hu
  have hmem : x ∈ d.interfaces ++ d.base.toList := by simpa using hx
  obtain ⟨hparam, hlt⟩ := hr d (Snapshot.mem_of_find? hd) x hmem
  rw [familyName_substitute hparam, ← Snapshot.key_of_find? hd]
  exact hlt

/-- Along a chain the rank falls, so no declaration comes back. -/
theorem Snapshot.nonRecursive_of_rank (rank : String → Nat) (hr : ∀ d ∈ s.types, d.Ranked rank) :
    s.NonRecursive := by
  have falls {ks : List StepKind} {ts : List TypeExpr} {t u : TypeExpr} (h : Chain s t ks ts u) :
      Simple (ts ++ [u]) ∧ ∀ x ∈ ts ++ [u], rank x.familyName ≤ rank t.familyName := by
    induction h with
    | none t => simp [Simple]
    | @step t u v k ks ts hstep _ ih =>
      have hlt := hstep.rank_lt hr
      have hfresh : t.familyName ∉ (ts ++ [v]).map familyName := by
        intro ht
        obtain ⟨x, hx, hxt⟩ := List.mem_map.1 ht
        have hle := ih.2 x hx
        rw [hxt] at hle
        omega
      refine ⟨List.nodup_cons.2 ⟨hfresh, ih.1⟩, ?_⟩
      intro x hx
      rcases List.mem_cons.1 hx with rfl | hx
      · exact Nat.le_refl _
      · exact Nat.le_trans (ih.2 x hx) (Nat.le_of_lt hlt)
  intro d _ ks ts u h
  exact (falls h).1

end InjectionPlan
