import InjectionPlan.Proofs.Scopes

/-! # Closing references in steps

    A walk closes what a declaration inherits one declaration at a time: the arguments of
    one step are substituted into what the last step led to.  If the first substitution has
    an argument for each parameter of a reference, then all that follows happens to these
    arguments only (`close_substitute`).  So the reference can as well be closed at once,
    with arguments that are closed already (`substitute_composes`).

    Substitution goes by name.  A parameter that is named twice takes the first argument,
    and one that is named where no argument is left stays open.
-/

namespace InjectionPlan

open TypeExpr

variable {t u : TypeExpr} {σ : Binding} {ps : List String} {as : List TypeExpr}

namespace TypeExpr

/-- Substitutes one binding after another. -/
def close (t : TypeExpr) (τs : List Binding) : TypeExpr := τs.foldl (fun u τ => u.substitute τ) t

/-- What is bound stays bound when the arguments change. -/
theorem BoundBy.map (f : TypeExpr → TypeExpr) (h : u.BoundBy σ) :
    u.BoundBy (σ.map fun b => (b.1, f b.2)) := by
  intro hpar
  rw [Binding.lookup_map, Option.isSome_map]
  exact h hpar

/-- Once each parameter has its argument, the later substitutions see the arguments only. -/
theorem close_substitute (ht : t.Every (BoundBy σ)) (τs : List Binding) :
    (t.substitute σ).close τs = t.substitute (σ.map fun b => (b.1, b.2.close τs)) := by
  induction τs generalizing σ with
  | nil =>
    have hσ : (σ.map fun b => (b.1, b.2.close [])) = σ := List.map_id σ
    rw [hσ]
    rfl
  | cons τ τs ih =>
    have hbound : t.Every (BoundBy (σ.map fun b => (b.1, b.2.substitute τ))) :=
      ht.imp fun u hu => hu.map (substitute τ)
    show ((t.substitute σ).substitute τ).close τs = _
    rw [substitute_substitute ht, ih hbound, List.map_map]
    rfl

/-- If the expression is a type parameter, then it is named at a position that has an
argument. -/
def Covered (ps : List String) (as : List TypeExpr) (u : TypeExpr) : Prop :=
  u.isParameter = true → ∃ i < as.length, ps[i]? = some u.name

instance (ps : List String) (as : List TypeExpr) : DecidablePred (Covered ps as) := fun u =>
  inferInstanceAs (Decidable (u.isParameter = true → ∃ i < as.length, ps[i]? = some u.name))

theorem Covered.boundBy (h : u.Covered ps as) : u.BoundBy (.of ps as) := by
  intro hpar
  exact Binding.isSome_lookup_of_iff.2 (h hpar)

end TypeExpr

/-- Let each type parameter of a reference be named at a position that has an argument.
Then to substitute the arguments, and further arguments in what comes out, is to substitute
at once the arguments in which the further ones are substituted.  Of a reference that is no
parameter, substitution keeps the definition name, the number of arguments and so the name
by which its declaration is found. -/
theorem substitute_composes (t : TypeExpr) :
    (∀ (ps qs : List String) (as bs : List TypeExpr), t.Every (Covered ps as) →
      (t.substitute (.of ps as)).substitute (.of qs bs) =
        t.substitute (.of ps (as.map (TypeExpr.substitute (.of qs bs))))) ∧
    (t.isParameter = false → ∀ (ps : List String) (as : List TypeExpr),
      (t.substitute (.of ps as)).definitionName = t.definitionName ∧
      (t.substitute (.of ps as)).arity = t.arity ∧
      (t.substitute (.of ps as)).familyName = t.familyName) := by
  refine ⟨?_, ?_⟩
  · intro ps qs as bs ht
    have hbound : t.Every (BoundBy (.of ps as)) := ht.imp fun _ hu => hu.boundBy
    have hclose := close_substitute hbound [.of qs bs]
    rw [Binding.of_map]
    exact hclose
  · intro hpar ps as
    exact ⟨definitionName_substitute hpar, arity_substitute hpar, familyName_substitute hpar⟩

namespace Crates

/-- A class of the module. -/
def item (name : String) : TypeExpr := .plain ⟨"App", name, .classType⟩

/-- A crate of something. -/
def crate (t : TypeExpr) : TypeExpr := .apply ⟨"App", "ICrate", .interfaceType⟩ [t]

/-- A shipment over two parameters, the first of which is used twice. -/
def shipment : TypeExpr :=
  .apply ⟨"App", "IShipment", .interfaceType⟩ [.param "T", crate (.param "U"), .param "T"]

/-- The first parameter is named twice, and the last one has no argument. -/
def params : List String := ["T", "U", "T", "V"]

/-- Arguments that use the last parameter. -/
def args : List TypeExpr := [crate (.param "V"), item "Order", item "Refund"]

end Crates

/-- The parameter that is used twice takes its first argument, and this is closed in the
second step. -/
theorem Crates.shipped :
    shipment.Every (Covered params args) ∧
    (shipment.substitute (.of params args)).substitute (.of ["V"] [item "Parcel"]) =
      .apply ⟨"App", "IShipment", .interfaceType⟩
        [crate (item "Parcel"), crate (item "Order"), crate (item "Parcel")] ∧
    shipment.isParameter = false ∧
    (shipment.substitute (.of params args)).familyName = "App.IShipment<,,>" := by
  have hcovered : shipment.Every (Covered params args) := by decide
  obtain ⟨hcomposes, hkeeps⟩ := substitute_composes shipment
  refine ⟨hcovered, ?_, rfl, ?_⟩
  · rw [hcomposes params ["V"] args [item "Parcel"] hcovered]
    rfl
  · obtain ⟨-, -, hfamily⟩ := hkeeps rfl params args
    rw [hfamily]
    rfl

/-- A parameter without argument stays open in the first step, so the second step reaches
it. -/
example (u : TypeExpr) :
    ((param "V").substitute (.of ["T", "V"] [u])).substitute (.of ["V"] [u]) = u ∧
    (param "V").substitute (.of ["T", "V"] ([u].map (TypeExpr.substitute (.of ["V"] [u])))) =
      param "V" :=
  ⟨rfl, rfl⟩

end InjectionPlan
