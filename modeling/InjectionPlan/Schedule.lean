import InjectionPlan.Block.Basic

/-! # Schedules

    When several workers share the types of a module, the blocks arrive in the
    order in which they happen to be finished.  Each block arrives once and with
    the position of its type.  `Schedule.collect` restores the order of
    declaration from the positions.
-/

namespace InjectionPlan

/-- An order in which finished blocks arrive, with the positions of their types. -/
structure Schedule where
  /-- The blocks as they arrive. -/
  arrange : List (Nat × Block) → List (Nat × Block)
  /-- Each block arrives exactly once. -/
  arrange_perm : ∀ xs, (arrange xs).Perm xs

namespace Schedule

/-- The blocks arrive in the order of declaration. -/
def inOrder : Schedule := ⟨id, fun _ => .refl _⟩

/-- The blocks in the order of declaration. -/
def collect (arrived : List (Nat × Block)) : List Block :=
  (arrived.mergeSort fun a b => a.1 ≤ b.1).map (·.2)

/-- The blocks of all types, made by several workers. -/
def blocks (sched : Schedule) (settings : Settings) (s : Snapshot) : List Block :=
  collect (sched.arrange (s.types.mapIdx fun i d => (i, Block.of settings s d)))

end Schedule

end InjectionPlan
