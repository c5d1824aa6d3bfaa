import InjectionPlan.Inheritance.Step

/-! # The interfaces of a type

    The interfaces of a type are those that it writes down, those that its
    interfaces inherit and those that its bases bring in.  They are found by a
    breadth-first walk over references, so that nearer ones come first.

    Two rules keep the walk finite:
    - a reference whose qualified name was met before is passed over;
    - a declaration that was expanded on the way to a reference is not expanded
      again at that reference.  Without this rule a declaration such as
      `Node<T> : Node<Wrap<T>>` would be walked for ever.

    Termination: a pending reference weighs a power of the number of inheritance
    clauses in the module, with the number of declarations not expanded on its way
    as exponent.  Expanding it replaces it by at most as many references of the
    next smaller weight, so the total weight falls.
-/

namespace InjectionPlan

/-- A reference that is still to be visited. -/
structure Visit where
  /-- The reference. -/
  type : TypeExpr
  /-- The keys of the declarations expanded on the way to it, the last one first. -/
  path : List String
deriving Repr

/-- The state of a walk. -/
structure InterfaceWalk where
  /-- What is still to be visited, in order. -/
  pending : List Visit
  /-- The qualified names met so far. -/
  visited : List String
  /-- The interfaces found so far, in order. -/
  found : List TypeExpr
  /-- The references at which a recursion was stopped, in order. -/
  stopped : List TypeExpr
deriving Repr

namespace InterfaceWalk

/-- The walk before its first visit. -/
def start (d : Declaration) : InterfaceWalk := ⟨[⟨d.self, []⟩], [], [], []⟩

/-- The list with `t` added at the end, unless a reference of that qualified name
is in it. -/
def record (found : List TypeExpr) (t : TypeExpr) : List TypeExpr :=
  if found.any (·.qualifiedName == t.qualifiedName) then found else found ++ [t]

/-- The walk after `v`, taken from the front of the pending visits, is expanded
as a reference to `d`. -/
def expand (w : InterfaceWalk) (v : Visit) (d : Declaration) : InterfaceWalk :=
  { w with
    pending := w.pending ++ (d.inheritedAt v.type).map (⟨·, v.type.familyName :: v.path⟩)
    found := (d.interfacesAt v.type).foldl record w.found }

/-- The walk after the visit of `v`, which is taken from the front already. -/
def visit (s : Snapshot) (w : InterfaceWalk) (v : Visit) : InterfaceWalk :=
  if w.visited.contains v.type.qualifiedName then w
  else
    let w := { w with visited := v.type.qualifiedName :: w.visited }
    match s.find? v.type with
    | none => w
    | some d =>
      if v.path.contains v.type.familyName then { w with stopped := w.stopped ++ [v.type] }
      else w.expand v d

/-- The walk after its next visit. -/
def next (s : Snapshot) (w : InterfaceWalk) : InterfaceWalk :=
  match w.pending with
  | [] => w
  | v :: rest => visit s { w with pending := rest } v

/-! ### Termination -/

/-- The sum of `f` over a list. -/
def total {α : Type} (f : α → Nat) : List α → Nat
  | [] => 0
  | a :: as => f a + total f as

theorem le_total {α : Type} {f : α → Nat} {a : α} {as : List α} (h : a ∈ as) :
    f a ≤ total f as := by
  induction as with
  | nil => cases h
  | cons b as ih =>
    rcases List.mem_cons.1 h with rfl | h
    · exact Nat.le_add_right _ _
    · exact Nat.le_trans (ih h) (Nat.le_add_left _ _)

theorem total_append {α : Type} (f : α → Nat) (as bs : List α) :
    total f (as ++ bs) = total f as + total f bs := by
  induction as with
  | nil => simp [total]
  | cons a as ih => simp [total, ih, Nat.add_assoc]

/-- The number of inheritance clauses in the module. -/
def clauses (s : Snapshot) : Nat := total Declaration.inheritedCount s.types

/-- The weight of a reference reached by a path. -/
def weight (s : Snapshot) (path : List String) : Nat := Nat.pow (clauses s + 1) (s.unused path)

/-- The total weight of the pending visits. -/
def load (s : Snapshot) (pending : List Visit) : Nat := total (fun v => weight s v.path) pending

theorem weight_pos (s : Snapshot) (path : List String) : 0 < weight s path :=
  Nat.pow_pos (Nat.succ_pos _)

theorem load_of_path (s : Snapshot) (ts : List TypeExpr) (path : List String) :
    load s (ts.map (⟨·, path⟩)) = ts.length * weight s path := by
  induction ts with
  | nil => simp [load, total]
  | cons t ts ih =>
    simp only [load, List.map_cons, total, List.length_cons] at ih ⊢
    rw [ih, Nat.succ_mul, Nat.add_comm]

/-- Expanding a declared type off its own path brings in less than it takes away. -/
theorem load_inherited_lt {s : Snapshot} {v : Visit} {d : Declaration}
    (hd : s.find? v.type = some d) (hp : v.type.familyName ∉ v.path) :
    load s ((d.inheritedAt v.type).map (⟨·, v.type.familyName :: v.path⟩)) < weight s v.path := by
  have hlt := Snapshot.unused_cons_lt (Snapshot.familyName_mem_keys hd) hp
  have hle : d.inheritedCount ≤ clauses s := le_total (Snapshot.mem_of_find? hd)
  rw [load_of_path, Declaration.length_inheritedAt]
  calc d.inheritedCount * weight s (v.type.familyName :: v.path)
      < (clauses s + 1) * weight s (v.type.familyName :: v.path) :=
        Nat.mul_lt_mul_of_pos_right (Nat.lt_succ_of_le hle) (weight_pos s _)
    _ = Nat.pow (clauses s + 1) (s.unused (v.type.familyName :: v.path) + 1) :=
        Nat.mul_comm _ _
    _ ≤ weight s v.path := Nat.pow_le_pow_right (Nat.succ_pos _) hlt

/-- Each visit makes the pending ones lighter. -/
theorem load_next_lt {s : Snapshot} {w : InterfaceWalk} (h : w.pending ≠ []) :
    load s (next s w).pending < load s w.pending := by
  obtain ⟨v, rest, hw⟩ := List.exists_cons_of_ne_nil h
  have hv : load s w.pending = weight s v.path + load s rest := by simp [hw, load, total]
  have hpos := weight_pos s v.path
  rw [hv]
  simp only [next, hw, visit]
  split
  · show load s rest < _
    omega
  · split
    · show load s rest < _
      omega
    · rename_i d hd
      split
      · show load s rest < _
        omega
      · rename_i hp
        have hp : v.type.familyName ∉ v.path := by simpa using hp
        have := load_inherited_lt hd hp
        simp only [expand, load, total_append] at this ⊢
        omega

/-- The walk after all its visits. -/
def finish (s : Snapshot) (w : InterfaceWalk) : InterfaceWalk :=
  if _h : w.pending = [] then w else finish s (next s w)
termination_by load s w.pending
decreasing_by exact load_next_lt _h

/-- The whole walk from a declaration. -/
def run (s : Snapshot) (d : Declaration) : InterfaceWalk := finish s (start d)

end InterfaceWalk

namespace Snapshot

/-- All interfaces of a type, the nearest first, no two of one qualified name. -/
def interfacesOf (s : Snapshot) (d : Declaration) : List TypeExpr :=
  (InterfaceWalk.run s d).found

/-- Whether one of the type's interfaces has this qualified or definition name. -/
def implements (s : Snapshot) (d : Declaration) (contract : String) : Bool :=
  (s.interfacesOf d).any fun i => i.qualifiedName == contract || i.definitionName == contract

end Snapshot

end InjectionPlan
