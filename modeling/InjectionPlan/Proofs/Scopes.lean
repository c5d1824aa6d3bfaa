import InjectionPlan.Proofs.Chains

/-! # Parameters along inheritance

    Declarations freely reuse the names of type parameters, and substitution goes by
    name only.  A chain of steps still mixes no two of them up if
    - each declaration uses only parameters of its own (`Snapshot.Scoped`), and
    - each reference has as many arguments as its declaration has parameters
      (`Snapshot.AritiesAgree`).

    Then every parameter on the way has an argument, and one substitution after
    another is a single one, with the arguments substituted (`substitute_substitute`).
    It follows that
    - what is inherited has no parameters but those in the arguments
      (`Step.every_of_args`, `Chain.every_of_scoped`);
    - closing a reference closes what it inherits, step by step (`Step.substitute`,
      `Chain.substitute`).
-/

namespace InjectionPlan

open TypeExpr

variable {s : Snapshot} {d : Declaration} {t u x : TypeExpr} {σ τ : Binding}
  {k : StepKind} {ks : List StepKind} {ts as : List TypeExpr} {ps : List String}
  {p : TypeExpr → Prop}

/-! ### Bound parameters -/

namespace Binding

theorem of_map (ps : List String) (as : List TypeExpr) (f : TypeExpr → TypeExpr) :
    of ps (as.map f) = (of ps as).map fun b => (b.1, f b.2) := by
  rw [of, List.zip_map_right]
  rfl

theorem lookup_of_self (q : String) (ps : List String) (a : TypeExpr) (as : List TypeExpr) :
    (of (q :: ps) (a :: as)).lookup q = some a := by
  rw [of, List.zip_cons_cons, List.lookup_cons, beq_self_eq_true]

theorem lookup_of_ne {n q : String} (h : n ≠ q) (ps : List String) (a : TypeExpr)
    (as : List TypeExpr) : (of (q :: ps) (a :: as)).lookup n = (of ps as).lookup n := by
  have hne : (n == q) = false := beq_eq_false_iff_ne.2 h
  rw [of, List.zip_cons_cons, List.lookup_cons, hne]
  rfl

/-- A parameter is bound if it is named at a position that has an argument. -/
theorem isSome_lookup_of_iff {n : String} :
    ((of ps as).lookup n).isSome = true ↔ ∃ i < as.length, ps[i]? = some n := by
  constructor
  · intro h
    obtain ⟨a, ha⟩ := Option.isSome_iff_exists.1 h
    obtain ⟨i, hi⟩ := List.mem_iff_getElem?.1 (mem_of_lookup ha)
    obtain ⟨hn, ha⟩ := List.getElem?_zip_eq_some.1 hi
    exact ⟨i, (List.getElem?_eq_some_iff.1 ha).1, hn⟩
  · rintro ⟨i, hi, hn⟩
    have hpair : (of ps as)[i]? = some (n, as[i]) :=
      List.getElem?_zip_eq_some.2 ⟨hn, List.getElem?_eq_getElem hi⟩
    -- the pair at this position is found, if no earlier one is
    rw [Option.isSome_iff_ne_none]
    intro hnone
    have hne := List.lookup_eq_none_iff.1 hnone _ (List.mem_of_getElem? hpair)
    simp at hne

/-- A parameter is bound if there are enough arguments. -/
theorem isSome_lookup_of {n : String} (hn : n ∈ ps) (hlen : ps.length ≤ as.length) :
    ((of ps as).lookup n).isSome = true := by
  obtain ⟨i, hi⟩ := List.mem_iff_getElem?.1 hn
  have hlt : i < ps.length := (List.getElem?_eq_some_iff.1 hi).1
  exact isSome_lookup_of_iff.2 ⟨i, by omega, hi⟩

/-- Different parameters are bound to the arguments at their positions. -/
theorem map_lookup_of (hps : ps.Nodup) (hlen : as.length = ps.length) :
    ps.map (fun n => (of ps as).lookup n) = as.map some := by
  induction ps generalizing as with
  | nil =>
    obtain rfl : as = [] := List.length_eq_zero_iff.1 hlen
    rfl
  | cons q ps ih =>
    obtain ⟨a, as, rfl⟩ := List.exists_cons_of_length_eq_add_one hlen
    obtain ⟨hfresh, hps⟩ := List.nodup_cons.1 hps
    have hlen' : as.length = ps.length := by simpa using hlen
    -- the first pair hides none of the others
    have hrest : ps.map (fun n => (of (q :: ps) (a :: as)).lookup n) =
        ps.map (fun n => (of ps as).lookup n) := by
      apply List.map_congr_left
      intro n hn
      apply lookup_of_ne
      rintro rfl
      exact hfresh hn
    rw [List.map_cons, List.map_cons, hrest, lookup_of_self, ih hps hlen']

end Binding

namespace TypeExpr

/-- If the expression is a type parameter, then the binding has an argument for it. -/
def BoundBy (σ : Binding) (u : TypeExpr) : Prop :=
  u.isParameter = true → (σ.lookup u.name).isSome = true

/-- Substituting twice is substituting once, with the arguments substituted. -/
theorem substitute_substitute (ht : t.Every (BoundBy σ)) :
    (t.substitute σ).substitute τ = t.substitute (σ.map fun b => (b.1, b.2.substitute τ)) := by
  induction t using substitutionInduction with
  | parameter t hpar =>
    obtain ⟨a, ha⟩ := Option.isSome_iff_exists.1 (ht.self hpar)
    rw [substitute_of_parameter hpar, substitute_of_parameter hpar, Binding.lookup_map, ha]
    rfl
  | plain h hpar => rw [substitute_plain hpar, substitute_plain hpar, substitute_plain hpar]
  | applied h as hpar ih =>
    have hpar' : (applied h (as.map (substitute σ))).isParameter = false := hpar
    have has : (as.map (substitute σ)).map (substitute τ) =
        as.map (substitute (σ.map fun b => (b.1, b.2.substitute τ))) := by
      rw [List.map_map]
      apply List.map_congr_left
      intro a ha
      exact ih a ha (ht.args a ha)
    rw [substitute_applied hpar, substitute_applied hpar', substitute_applied hpar, has]
  | erased h n hpar => rw [substitute_erased hpar, substitute_erased hpar, substitute_erased hpar]

/-- A property that is about parameters only comes from the arguments, if each parameter
has one. -/
theorem Every.substitute_of_bound (hp : ∀ u, u.isParameter = false → p u)
    (ht : t.Every (BoundBy σ)) (hσ : ∀ b ∈ σ, b.2.Every p) : (t.substitute σ).Every p := by
  induction t using substitutionInduction with
  | parameter t hpar =>
    obtain ⟨a, ha⟩ := Option.isSome_iff_exists.1 (ht.self hpar)
    rw [substitute_of_parameter hpar, ha]
    exact hσ _ (mem_of_lookup ha)
  | plain h hpar =>
    rw [substitute_plain hpar]
    exact .plain (hp _ hpar)
  | applied h as hpar ih =>
    rw [substitute_applied hpar]
    refine .applied (hp _ hpar) ?_
    intro a ha
    obtain ⟨b, hb, rfl⟩ := List.mem_map.1 ha
    exact ih b hb (ht.args b hb)
  | erased h n hpar =>
    rw [substitute_erased hpar]
    exact .erased (hp _ hpar)

/-- Whether the arguments are erased. -/
def isErased : TypeExpr → Bool
  | erased _ _ => true
  | _ => false

theorem length_args (ht : t.isErased = false) : t.args.length = t.arity := by
  cases t with
  | plain => rfl
  | applied => rfl
  | erased => cases ht

/-- Without the first bracket in its definition name, a family name tells the arity. -/
theorem length_dropWhile_familyName (ht : '<' ∉ t.definitionName.toList) :
    (t.familyName.toList.dropWhile (· != '<')).length = if 0 < t.arity then t.arity + 1 else 0 := by
  have hname : ∀ c ∈ t.definitionName.toList, (c != '<') = true := by
    intro c hc
    rw [bne_iff_ne]
    rintro rfl
    exact ht hc
  rw [familyName, String.toList_append, List.dropWhile_append_of_pos hname, isGeneric]
  by_cases harity : 0 < t.arity
  · simp only [harity, decide_true, if_true, toList_erasedSuffix]
    simp
    omega
  · simp [harity]

theorem arity_eq_of_familyName_eq (ht : '<' ∉ t.definitionName.toList)
    (hu : '<' ∉ u.definitionName.toList) (h : t.familyName = u.familyName) : t.arity = u.arity := by
  have hlen := length_dropWhile_familyName ht
  rw [h, length_dropWhile_familyName hu] at hlen
  split at hlen <;> split at hlen <;> omega

/-- A part of a reference that may stand in a declaration with these parameters: its
arguments are not erased, and a type parameter is one of them. -/
def ScopedIn (ps : List String) (u : TypeExpr) : Prop :=
  u.isErased = false ∧ (u.isParameter = true → u.name ∈ ps)

instance (ps : List String) : DecidablePred (ScopedIn ps) := fun u =>
  inferInstanceAs (Decidable (u.isErased = false ∧ (u.isParameter = true → u.name ∈ ps)))

end TypeExpr

/-! ### Scoped modules -/

namespace Declaration

/-- What the declaration inherits is written over its own parameters. -/
def Scoped (d : Declaration) : Prop :=
  ∀ x ∈ d.interfaces ++ d.base.toList, x.Every (ScopedIn d.params)

instance : DecidablePred Scoped := fun d =>
  inferInstanceAs (Decidable (∀ x ∈ d.interfaces ++ d.base.toList, x.Every (ScopedIn d.params)))

/-- The parts of the declared type itself are the type and its parameters. -/
theorem every_self (hself : p d.self) (hparams : ∀ n ∈ d.params, p (param n)) :
    d.self.Every p := by
  unfold self apply at *
  split
  · rename_i hnone
    rw [if_pos hnone] at hself
    exact .plain hself
  · rename_i hsome
    rw [if_neg hsome] at hself
    refine .applied hself ?_
    intro a ha
    obtain ⟨n, hn, rfl⟩ := List.mem_map.1 ha
    exact .plain (hparams n hn)

theorem isErased_self (d : Declaration) : d.self.isErased = false := by
  unfold self apply
  split <;> rfl

theorem isParameter_self (d : Declaration) : d.self.isParameter = false := by
  have hkind : d.self.kind = d.kind.toTypeKind := by
    rw [TypeExpr.kind, head_self]
    rfl
  rw [isParameter, hkind]
  cases d.kind <;> rfl

end Declaration

namespace Snapshot

/-- All declarations use their own parameters only. -/
def Scoped (s : Snapshot) : Prop := ∀ d ∈ s.types, d.Scoped

instance : DecidablePred Scoped := fun s => inferInstanceAs (Decidable (∀ d ∈ s.types, d.Scoped))

/-- The declaration behind the reference, if there is one, has as many parameters as the
reference has generic arguments. -/
def AgreesInArity (s : Snapshot) (u : TypeExpr) : Prop :=
  ∀ e ∈ s.find? u, e.params.length = u.arity

instance (s : Snapshot) : DecidablePred s.AgreesInArity := fun u =>
  inferInstanceAs (Decidable (∀ e ∈ s.find? u, e.params.length = u.arity))

/-- All references of the module agree in arity with their declarations. -/
def AritiesAgree (s : Snapshot) : Prop := s.Every s.AgreesInArity

instance : DecidablePred AritiesAgree := fun s =>
  inferInstanceAs (Decidable (s.Every s.AgreesInArity))

/-- The reference has an argument for every parameter of its declaration. -/
def Saturates (s : Snapshot) (u : TypeExpr) : Prop :=
  ∀ e ∈ s.find? u, e.params.length = u.args.length

theorem shallow_saturates (s : Snapshot) : Shallow s.Saturates := by
  intro h as bs hlen has e he
  have hname : (applied h bs).familyName = (applied h as).familyName :=
    familyName_congr rfl hlen.symm
  have he' : e ∈ s.find? (applied h as) := by rwa [← find?_congr hname]
  have heas : e.params.length = as.length := has e he'
  show e.params.length = bs.length
  omega

/-- In a scoped module arguments are erased in no reference, so if arities agree, then
every parameter has an argument. -/
theorem every_saturates (hs : s.Scoped) (ha : s.AritiesAgree) : s.Every s.Saturates where
  self d hd := by
    have hwritten : d.self.Every fun u => u.isErased = false :=
      d.every_self d.isErased_self fun _ _ => rfl
    refine (hwritten.and (ha.self d hd)).imp ?_
    intro u hu e he
    rw [hu.2 e he, length_args hu.1]
  interfaces d hd i hi := by
    have hscoped := hs d hd i (List.mem_append_left _ hi)
    refine (hscoped.and (ha.interfaces d hd i hi)).imp ?_
    intro u hu e he
    rw [hu.2 e he, length_args hu.1.1]
  base d hd b hb := by
    have hscoped := hs d hd b (List.mem_append_right _ (by simp [hb]))
    refine (hscoped.and (ha.base d hd b hb)).imp ?_
    intro u hu e he
    rw [hu.2 e he, length_args hu.1.1]

/-- Arities agree unless an opening bracket stands in a name. -/
theorem aritiesAgree_of_names (h : s.Every fun u => '<' ∉ u.definitionName.toList) :
    s.AritiesAgree := by
  have agrees (u : TypeExpr) (hu : '<' ∉ u.definitionName.toList) : s.AgreesInArity u := by
    intro e he
    have hself : '<' ∉ e.self.definitionName.toList := (h.self e (mem_of_find? he)).self
    have harity : e.self.arity = e.params.length := by
      rw [Declaration.self, arity_apply, List.length_map]
    rw [← harity]
    exact arity_eq_of_familyName_eq hself hu (key_of_find? he)
  exact ⟨fun d hd => (h.self d hd).imp agrees, fun d hd i hi => (h.interfaces d hd i hi).imp agrees,
    fun d hd b hb => (h.base d hd b hb).imp agrees⟩

end Snapshot

/-! ### Steps and chains -/

theorem Snapshot.Scoped.every_boundBy (hs : s.Scoped) (hd : s.find? t = some d)
    (ht : s.Saturates t) (hx : x ∈ d.interfaces ∨ d.base = some x) :
    x.Every (BoundBy (d.bindingAt t)) := by
  have hmem : x ∈ d.interfaces ++ d.base.toList := by simpa using hx
  have hlen : d.params.length ≤ t.args.length := Nat.le_of_eq (ht d hd)
  refine (hs d (Snapshot.mem_of_find? hd) x hmem).imp ?_
  intro u hu hpar
  exact Binding.isSome_lookup_of (hu.2 hpar) hlen

/-- What a step leads to has no parameters but those in the arguments. -/
theorem Step.every_of_args (hp : ∀ u, u.isParameter = false → p u) (hs : s.Scoped)
    (ht : s.Saturates t) (hargs : ∀ a ∈ t.args, a.Every p) (h : Step s k t u) : u.Every p := by
  obtain ⟨d, hd, hu, -⟩ := h.exists_declaration
  obtain ⟨x, hx, rfl⟩ := Declaration.exists_written hu
  have hbound := hs.every_boundBy hd ht hx
  refine hbound.substitute_of_bound hp ?_
  intro b hb
  exact hargs b.2 (List.of_mem_zip hb).2

/-- What a chain leads to has no parameters but those of the reference it starts from. -/
theorem Chain.every_of_scoped (hp : ∀ u, u.isParameter = false → p u) (hs : s.Scoped)
    (hsat : s.Every s.Saturates) (h : Chain s t ks ts u) (ht : t.Every s.Saturates)
    (htp : t.Every p) : u.Every p := by
  induction h with
  | none => exact htp
  | step hstep _ ih =>
    have hnext := hstep.every_of_args hp hs ht.self htp.args
    exact ih (hstep.every s.shallow_saturates hsat ht) hnext

/-- What is written down, seen from a reference and then closed, is what is seen from the
closed reference. -/
theorem Declaration.substitute_bindingAt (hx : x.Every (BoundBy (d.bindingAt t)))
    (hpar : t.isParameter = false) :
    (x.substitute (d.bindingAt t)).substitute σ = x.substitute (d.bindingAt (t.substitute σ)) := by
  have hbinding : d.bindingAt (t.substitute σ) =
      (d.bindingAt t).map fun b => (b.1, b.2.substitute σ) := by
    rw [bindingAt, args_substitute hpar, Binding.of_map]
    rfl
  rw [substitute_substitute hx, hbinding]

/-- Closing a reference closes what a step from it leads to. -/
theorem Step.substitute (σ : Binding) (hs : s.Scoped) (ht : s.Saturates t)
    (hpar : t.isParameter = false) (h : Step s k t u) :
    Step s k (t.substitute σ) (u.substitute σ) := by
  have hfind : s.find? (t.substitute σ) = s.find? t :=
    Snapshot.find?_congr (familyName_substitute hpar)
  cases h with
  | @toInterface _ _ d hd hi =>
    obtain ⟨x, hx, rfl⟩ := List.mem_map.1 hi
    have hbound := hs.every_boundBy hd ht (.inl hx)
    rw [d.substitute_bindingAt hbound hpar]
    exact .toInterface (hfind.trans hd) (List.mem_map_of_mem hx)
  | @toBase _ _ d hd hb =>
    obtain ⟨x, hx, rfl⟩ := Option.map_eq_some_iff.1 hb
    have hbound := hs.every_boundBy hd ht (.inr hx)
    rw [d.substitute_bindingAt hbound hpar]
    exact .toBase (hfind.trans hd) (Option.map_eq_some_iff.2 ⟨x, hx, rfl⟩)

/-- A type parameter takes no arguments. -/
def TypeExpr.BareParameter (u : TypeExpr) : Prop := u.isParameter = true → u.args = []

/-- Closing a reference closes what a chain from it leads to, unless nothing in that is
open: a chain may pass through a type parameter that has the name of a declared type, and
then it goes on from that type, whatever the parameter stands for. -/
theorem Chain.substitute (σ : Binding) (hs : s.Scoped) (hsat : s.Every s.Saturates)
    (h : Chain s t ks ts u) (ht : t.Every s.Saturates) (hbare : t.Every BareParameter)
    (hopen : ¬ u.Every fun v => v.isParameter = false) :
    Chain s (t.substitute σ) ks (ts.map (TypeExpr.substitute σ)) (u.substitute σ) := by
  induction h with
  | none => exact .none _
  | @step t v u k ks ts hstep hrest ih =>
    have hv := hstep.every s.shallow_saturates hsat ht
    have hpar : t.isParameter = false := by
      rw [← Bool.not_eq_true]
      intro hpar
      -- a parameter has no arguments, so nothing open comes of it
      have hargs : ∀ a ∈ t.args, a.Every fun v => v.isParameter = false := by
        rw [hbare.self hpar]
        intro a ha
        cases ha
      have hclosed := hstep.every_of_args (fun _ h => h) hs ht.self hargs
      exact hopen (hrest.every_of_scoped (fun _ h => h) hs hsat hv hclosed)
    have hvbare : v.Every BareParameter := by
      refine hstep.every_of_args ?_ hs ht.self hbare.args
      intro w hw hpar
      rw [hw] at hpar
      cases hpar
    exact .step (hstep.substitute σ hs ht.self hpar) (ih hv hvbare hopen)

end InjectionPlan
