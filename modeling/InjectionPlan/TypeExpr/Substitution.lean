import InjectionPlan.TypeExpr.Name

/-! # Substitution of type parameters

    A declaration's base and interfaces are written over its own parameters.  To
    see them from a use of the declaration, each parameter is replaced by the
    argument at its position.  A parameter without an argument stays.
-/

namespace InjectionPlan

/-- Pairs each parameter name with the argument at its position. -/
abbrev Binding := List (String × TypeExpr)

/-- The binding of parameters to arguments, as far as both lists go. -/
def Binding.of (params : List String) (args : List TypeExpr) : Binding := params.zip args

namespace TypeExpr

mutual

/-- The expression with each bound parameter replaced; the first binding of a
name counts. -/
def substitute (σ : Binding) : TypeExpr → TypeExpr
  | plain h => if h.kind = .parameter then (σ.lookup h.name).getD (plain h) else plain h
  | applied h as =>
    if h.kind = .parameter then (σ.lookup h.name).getD (applied h as)
    else applied h (substituteAll σ as)
  | erased h n => if h.kind = .parameter then (σ.lookup h.name).getD (erased h n) else erased h n

/-- Substitutes in each expression of a list. -/
def substituteAll (σ : Binding) : List TypeExpr → List TypeExpr
  | [] => []
  | a :: as => substitute σ a :: substituteAll σ as

end

theorem substituteAll_eq_map (σ : Binding) (as : List TypeExpr) :
    substituteAll σ as = as.map (substitute σ) := by
  induction as with
  | nil => rfl
  | cons a as ih => simp [substituteAll, ih]

/-- A parameter becomes its argument. -/
theorem substitute_of_parameter {σ : Binding} {t : TypeExpr} (h : t.isParameter = true) :
    t.substitute σ = (σ.lookup t.name).getD t := by
  have hk : t.head.kind = .parameter := by simpa [isParameter, kind] using h
  cases t <;> simp_all [substitute, name, head]

/-- Substitution keeps the head of all else. -/
theorem head_substitute {σ : Binding} {t : TypeExpr} (h : t.isParameter = false) :
    (t.substitute σ).head = t.head := by
  have hk : t.head.kind ≠ .parameter := by simpa [isParameter, kind] using h
  cases t <;> simp_all [substitute, head]

end TypeExpr

end InjectionPlan
