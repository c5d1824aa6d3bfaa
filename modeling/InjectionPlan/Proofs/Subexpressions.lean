import InjectionPlan.TypeExpr.Substitution

/-! # Properties of all parts of an expression

    A type expression is made of parts: itself, its arguments, their arguments, and
    so on.  `Every p t` says that all parts of `t` have the property `p`.

    Inheritance builds new references by substitution.  A property that looks at a
    part's own head and form only, whatever its arguments are, is *shallow*;
    substitution keeps it for all parts (`Every.substitute`).
-/

namespace InjectionPlan

/-- What happens to all arguments alike can wait until after the look-up. -/
theorem Binding.lookup_map {β : Type} (σ : Binding) (f : TypeExpr → β) (n : String) :
    (σ.map fun b => (b.1, f b.2)).lookup n = (σ.lookup n).map f := by
  induction σ with
  | nil => rfl
  | cons b σ ih =>
    rw [List.map_cons, List.lookup_cons, List.lookup_cons]
    split
    · rfl
    · exact ih

namespace TypeExpr

/-- Induction on an expression, with the property assumed of each argument. -/
@[induction_eliminator]
theorem induction {motive : TypeExpr → Prop} (plain : ∀ h, motive (plain h))
    (applied : ∀ h as, (∀ a ∈ as, motive a) → motive (applied h as))
    (erased : ∀ h n, motive (erased h n)) (t : TypeExpr) : motive t :=
  @TypeExpr.rec motive (fun as => ∀ a ∈ as, motive a) plain applied erased
    (fun _ ha => by cases ha)
    (fun a as ha has b hb => by
      rcases List.mem_cons.1 hb with rfl | hb
      · exact ha
      · exact has b hb)
    t

/-- Induction on an expression whose form makes no difference: what holds of an expression
as soon as it holds of the arguments holds of all. -/
theorem argsInduction {motive : TypeExpr → Prop}
    (ofArgs : ∀ t, (∀ a ∈ t.args, motive a) → motive t) (t : TypeExpr) : motive t := by
  induction t with
  | plain h => exact ofArgs _ (fun a ha => by cases ha)
  | applied h as ih => exact ofArgs _ ih
  | erased h n => exact ofArgs _ (fun a ha => by cases ha)

/-! ### Properties of every part -/

/-- Each part of the expression has the property. -/
inductive Every (p : TypeExpr → Prop) : TypeExpr → Prop
  /-- The head is the only part. -/
  | plain {h : TypeHead} : p (plain h) → Every p (plain h)
  /-- The expression and the parts of its arguments. -/
  | applied {h : TypeHead} {as : List TypeExpr} :
    p (applied h as) → (∀ a ∈ as, Every p a) → Every p (applied h as)
  /-- An erased argument is no part. -/
  | erased {h : TypeHead} {n : UInt64} : p (erased h n) → Every p (erased h n)

/-- The property does not depend on what the arguments are, only on their number. -/
def Shallow (p : TypeExpr → Prop) : Prop :=
  ∀ h as bs, as.length = bs.length → p (applied h as) → p (applied h bs)

variable {p : TypeExpr → Prop} {t : TypeExpr}

theorem Every.self (ht : t.Every p) : p t := by
  cases ht <;> assumption

theorem Every.args (ht : t.Every p) : ∀ a ∈ t.args, a.Every p := by
  cases ht with
  | plain => intro a ha; cases ha
  | applied _ has => exact has
  | erased => intro a ha; cases ha

theorem every_plain {h : TypeHead} : (plain h).Every p ↔ p (plain h) :=
  ⟨Every.self, .plain⟩

theorem every_applied {h : TypeHead} {as : List TypeExpr} :
    (applied h as).Every p ↔ p (applied h as) ∧ ∀ a ∈ as, a.Every p :=
  ⟨fun ht => ⟨ht.self, ht.args⟩, fun ⟨hp, has⟩ => .applied hp has⟩

theorem every_erased {h : TypeHead} {n : UInt64} : (erased h n).Every p ↔ p (erased h n) :=
  ⟨Every.self, .erased⟩

theorem Every.imp {p q : TypeExpr → Prop} (hpq : ∀ u, p u → q u) (ht : t.Every p) : t.Every q := by
  induction ht with
  | plain h => exact .plain (hpq _ h)
  | applied h _ ih => exact .applied (hpq _ h) ih
  | erased h => exact .erased (hpq _ h)

theorem Every.and {p q : TypeExpr → Prop} (hp : t.Every p) (hq : t.Every q) :
    t.Every fun u => p u ∧ q u := by
  induction hp with
  | plain h => exact .plain ⟨h, hq.self⟩
  | applied h _ ih => exact .applied ⟨h, hq.self⟩ fun a ha => ih a ha (hq.args a ha)
  | erased h => exact .erased ⟨h, hq.self⟩

mutual

/-- Decides whether all parts of an expression have the property. -/
def decideEvery (p : TypeExpr → Prop) [DecidablePred p] : (t : TypeExpr) → Decidable (t.Every p)
  | plain _ => decidable_of_iff _ every_plain.symm
  | applied h as =>
    haveI := decideEveryOf p as
    decidable_of_iff (p (applied h as) ∧ ∀ a ∈ as, a.Every p) every_applied.symm
  | erased _ _ => decidable_of_iff _ every_erased.symm

/-- Decides the same for a list of expressions. -/
def decideEveryOf (p : TypeExpr → Prop) [DecidablePred p] :
    (as : List TypeExpr) → Decidable (∀ a ∈ as, a.Every p)
  | [] => isTrue fun _ ha => by cases ha
  | a :: as =>
    haveI := decideEvery p a
    haveI := decideEveryOf p as
    decidable_of_iff (a.Every p ∧ ∀ b ∈ as, b.Every p) List.forall_mem_cons.symm

end

instance {p : TypeExpr → Prop} [DecidablePred p] : DecidablePred (Every p) := decideEvery p

/-! ### Substitution -/

/-- What a bound parameter stands for is one of the arguments. -/
theorem mem_of_lookup {σ : Binding} {n : String} {u : TypeExpr} (h : σ.lookup n = some u) :
    (n, u) ∈ σ := by
  obtain ⟨before, rest, rfl, -⟩ := List.lookup_eq_some_iff.1 h
  exact List.mem_append_right _ List.mem_cons_self

/-- A parameter becomes an argument or stays. -/
theorem substitute_parameter_cases {σ : Binding} (h : t.isParameter = true) :
    (∃ b ∈ σ, t.substitute σ = b.2) ∨ t.substitute σ = t := by
  rw [substitute_of_parameter h]
  cases hu : σ.lookup t.name with
  | none => exact .inr rfl
  | some u => exact .inl ⟨_, mem_of_lookup hu, rfl⟩

@[simp] theorem substitute_plain {σ : Binding} {h : TypeHead} (hp : (plain h).isParameter = false) :
    (plain h).substitute σ = plain h := by
  have hk : h.kind ≠ .parameter := by simpa [isParameter, kind, head] using hp
  simp [substitute, hk]

@[simp] theorem substitute_applied {σ : Binding} {h : TypeHead} {as : List TypeExpr}
    (hp : (applied h as).isParameter = false) :
    (applied h as).substitute σ = applied h (as.map (substitute σ)) := by
  have hk : h.kind ≠ .parameter := by simpa [isParameter, kind, head] using hp
  simp [substitute, hk, substituteAll_eq_map]

@[simp] theorem substitute_erased {σ : Binding} {h : TypeHead} {n : UInt64}
    (hp : (erased h n).isParameter = false) : (erased h n).substitute σ = erased h n := by
  have hk : h.kind ≠ .parameter := by simpa [isParameter, kind, head] using hp
  simp [substitute, hk]

/-- Induction along a substitution: a parameter is replaced whatever form it has, and of
all else only the arguments change. -/
theorem substitutionInduction {motive : TypeExpr → Prop}
    (parameter : ∀ t, t.isParameter = true → motive t)
    (plain : ∀ h, (plain h).isParameter = false → motive (plain h))
    (applied : ∀ h as, (applied h as).isParameter = false → (∀ a ∈ as, motive a) →
      motive (applied h as))
    (erased : ∀ h n, (erased h n).isParameter = false → motive (erased h n)) (t : TypeExpr) :
    motive t := by
  induction t with
  | plain h =>
    cases hp : (TypeExpr.plain h).isParameter with
    | true => exact parameter _ hp
    | false => exact plain h hp
  | applied h as ih =>
    cases hp : (TypeExpr.applied h as).isParameter with
    | true => exact parameter _ hp
    | false => exact applied h as hp ih
  | erased h n =>
    cases hp : (TypeExpr.erased h n).isParameter with
    | true => exact parameter _ hp
    | false => exact erased h n hp

/-- Substitution works on the arguments of all but a parameter. -/
theorem args_substitute {σ : Binding} (ht : t.isParameter = false) :
    (t.substitute σ).args = t.args.map (substitute σ) := by
  cases t with
  | plain h => rw [substitute_plain ht]; rfl
  | applied h as => rw [substitute_applied ht]; rfl
  | erased h n => rw [substitute_erased ht]; rfl

/-- Substitution keeps the definition name of all but a parameter. -/
theorem definitionName_substitute {σ : Binding} (ht : t.isParameter = false) :
    (t.substitute σ).definitionName = t.definitionName :=
  congrArg TypeHead.definitionName (head_substitute ht)

/-- Substitution keeps the number of arguments of all but a parameter. -/
theorem arity_substitute {σ : Binding} (ht : t.isParameter = false) :
    (t.substitute σ).arity = t.arity := by
  cases t with
  | plain h => rw [substitute_plain ht]
  | applied h as => rw [substitute_applied ht]; exact List.length_map _
  | erased h n => rw [substitute_erased ht]

/-- Nothing is bound without parameters. -/
theorem substitute_nil (t : TypeExpr) : t.substitute [] = t := by
  induction t using substitutionInduction with
  | parameter t h => exact substitute_of_parameter h
  | plain h hk => exact substitute_plain hk
  | applied h as hk ih =>
    have has : as.map (substitute []) = as := (List.map_congr_left ih).trans (List.map_id as)
    rw [substitute_applied hk, has]
  | erased h n hk => exact substitute_erased hk

/-- Substitution keeps a shallow property of every part, if the arguments have it. -/
theorem Every.substitute (hs : Shallow p) (ht : t.Every p) {σ : Binding}
    (hσ : ∀ b ∈ σ, b.2.Every p) : (t.substitute σ).Every p := by
  induction t using substitutionInduction with
  | parameter t h =>
    rcases substitute_parameter_cases h with ⟨b, hb, heq⟩ | heq
    · rw [heq]
      exact hσ b hb
    · rw [heq]
      exact ht
  | plain h hk =>
    rw [substitute_plain hk]
    exact ht
  | applied h as hk ih =>
    rw [substitute_applied hk]
    refine .applied (hs h as _ (by simp) ht.self) ?_
    intro a ha
    obtain ⟨b, hb, rfl⟩ := List.mem_map.1 ha
    exact ih b hb (ht.args b hb)
  | erased h n hk =>
    rw [substitute_erased hk]
    exact ht

end TypeExpr

end InjectionPlan
