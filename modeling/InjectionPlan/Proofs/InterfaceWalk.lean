import InjectionPlan.Inheritance.InterfaceWalk
import InjectionPlan.Proofs.Chains
import Mathlib.Logic.Function.Iterate
import Mathlib.Logic.Relation

/-! # What the interface walk finds

    The walk from a declaration takes pending references in order.  It looks at a
    reference only if it has not met its qualified name before, and it expands it
    only if the way to it has not expanded the same declaration.  So the first
    reference that the walk meets under a name decides whether the name is ever
    expanded: the walk *follows* it or not.

    - `next_cases` says what one visit can do; each invariant below is one case
      analysis with it.
    - `Passes` are the states of a run, and `Invariant` is what holds in all of
      them: every pending reference and every found interface is the end of a simple
      chain of followed references.
    - `Meets.unique`: each name is met first at one reference, on one way.
    - `mem_names_found_iff`: exactly the interfaces at the end of simple chains of
      followed references are found.
-/

namespace InjectionPlan

open TypeExpr

namespace InterfaceWalk

variable {s : Snapshot} {d : Declaration} {w : InterfaceWalk} {t u : TypeExpr} {q : String}

/-! ### One visit -/

/-- A walk that is over stays as it is. -/
theorem next_eq_self (h : w.pending = []) : next s w = w := by
  rw [next, h]

/-- The four things that the next visit can do. -/
theorem next_cases {motive : InterfaceWalk → Prop} {v : Visit} {rest : List Visit}
    (hw : w.pending = v :: rest)
    (passed : v.type.qualifiedName ∈ w.visited → motive { w with pending := rest })
    (undeclared : v.type.qualifiedName ∉ w.visited → s.find? v.type = none →
      motive { w with pending := rest, visited := v.type.qualifiedName :: w.visited })
    (stopped : ∀ e, v.type.qualifiedName ∉ w.visited → s.find? v.type = some e →
      v.type.familyName ∈ v.path →
      motive { w with
        pending := rest
        visited := v.type.qualifiedName :: w.visited
        stopped := w.stopped ++ [v.type] })
    (expanded : ∀ e, v.type.qualifiedName ∉ w.visited → s.find? v.type = some e →
      v.type.familyName ∉ v.path →
      motive { w with
        pending := rest ++ (e.inheritedAt v.type).map (⟨·, v.type.familyName :: v.path⟩)
        visited := v.type.qualifiedName :: w.visited
        found := (e.interfacesAt v.type).foldl record w.found }) :
    motive (next s w) := by
  have hnext : next s w = visit s { w with pending := rest } v := by rw [next, hw]
  rw [hnext, visit]
  by_cases hv : v.type.qualifiedName ∈ w.visited
  · rw [if_pos (by simpa using hv)]
    exact passed hv
  · rw [if_neg (by simpa using hv)]
    cases hd : s.find? v.type with
    | none => exact undeclared hv hd
    | some e =>
      by_cases hp : v.type.familyName ∈ v.path
      · simp only [if_pos (show v.path.contains v.type.familyName = true by simpa using hp)]
        exact stopped e hv hd hp
      · simp only [if_neg (show ¬ v.path.contains v.type.familyName = true by simpa using hp)]
        exact expanded e hv hd hp

theorem mem_pending_front {v : Visit} {rest : List Visit} (hw : w.pending = v :: rest) :
    v ∈ w.pending := by
  rw [hw]
  exact List.mem_cons_self

/-- What stands behind the first pending visit waits on, and what the visit brings in
stands behind it, one step further on. -/
theorem exists_pending_next {v : Visit} {rest : List Visit} (hw : w.pending = v :: rest) :
    ∃ more, (next s w).pending = rest ++ more ∧
      ∀ x ∈ more, x.path.length = v.path.length + 1 := by
  refine next_cases (motive := fun w' => ∃ more, w'.pending = rest ++ more ∧
    ∀ x ∈ more, x.path.length = v.path.length + 1) hw ?passed ?undeclared ?stopped ?expanded
  case passed =>
    intro _
    exact ⟨[], by simp, by simp⟩
  case undeclared =>
    intro _ _
    exact ⟨[], by simp, by simp⟩
  case stopped =>
    intro _ _ _ _
    exact ⟨[], by simp, by simp⟩
  case expanded =>
    intro e _ _ _
    refine ⟨_, rfl, ?_⟩
    intro x hx
    obtain ⟨u, -, rfl⟩ := List.mem_map.1 hx
    rfl

theorem mem_pending_next {v x : Visit} {rest : List Visit} (hw : w.pending = v :: rest)
    (hx : x ∈ rest) : x ∈ (next s w).pending := by
  obtain ⟨more, hpending, -⟩ := exists_pending_next (s := s) hw
  rw [hpending]
  exact List.mem_append_left _ hx

/-! ### Recording -/

theorem record_cases (found : List TypeExpr) (t : TypeExpr) :
    (t.qualifiedName ∈ found.map qualifiedName ∧ record found t = found) ∨
      (t.qualifiedName ∉ found.map qualifiedName ∧ record found t = found ++ [t]) := by
  have hany : found.any (·.qualifiedName == t.qualifiedName) = true ↔
      t.qualifiedName ∈ found.map qualifiedName := by simp
  by_cases h : t.qualifiedName ∈ found.map qualifiedName
  · exact .inl ⟨h, if_pos (hany.2 h)⟩
  · exact .inr ⟨h, if_neg fun h' => h (hany.1 h')⟩

/-- Recording adds the names of the recorded references. -/
theorem mem_names_foldl_record {found ts : List TypeExpr} :
    q ∈ (ts.foldl record found).map qualifiedName ↔
      q ∈ found.map qualifiedName ∨ q ∈ ts.map qualifiedName := by
  induction ts generalizing found with
  | nil => simp
  | cons t ts ih =>
    rw [List.foldl_cons, ih, List.map_cons, List.mem_cons]
    rcases record_cases found t with ⟨h, e⟩ | ⟨-, e⟩
    · rw [e]
      constructor
      · rintro (hq | hq)
        · exact .inl hq
        · exact .inr (.inr hq)
      · rintro (hq | rfl | hq)
        · exact .inl hq
        · exact .inl h
        · exact .inr hq
    · rw [e, List.map_append, List.mem_append, List.map_singleton, List.mem_singleton, or_assoc]

/-- What is recorded was found before or is one of the references. -/
theorem mem_of_mem_foldl_record {found ts : List TypeExpr} (h : t ∈ ts.foldl record found) :
    t ∈ found ∨ t ∈ ts := by
  induction ts generalizing found with
  | nil => exact .inl h
  | cons x ts ih =>
    rcases ih h with h | h
    · rcases record_cases found x with ⟨-, e⟩ | ⟨-, e⟩
      · exact .inl (e ▸ h)
      · rw [e, List.mem_append, List.mem_singleton] at h
        rcases h with h | rfl
        · exact .inl h
        · exact .inr List.mem_cons_self
    · exact .inr (List.mem_cons_of_mem _ h)

/-- Recording keeps the names apart. -/
theorem nodup_foldl_record {found ts : List TypeExpr} (h : (found.map qualifiedName).Nodup) :
    ((ts.foldl record found).map qualifiedName).Nodup := by
  induction ts generalizing found with
  | nil => exact h
  | cons t ts ih =>
    apply ih
    rcases record_cases found t with ⟨-, e⟩ | ⟨ht, e⟩
    · rw [e]
      exact h
    · rw [e, List.map_append, List.map_singleton, List.nodup_append]
      refine ⟨h, by simp, ?_⟩
      intro a ha b hb hab
      obtain rfl := List.mem_singleton.1 hb
      exact ht (hab ▸ ha)

/-- A reference that is met for the first time, on a way that has not expanded its
declaration, hands on what it inherits: all of it is pending, and the interfaces are
found. -/
theorem next_of_step {v : Visit} {rest : List Visit} {k : StepKind} (hw : w.pending = v :: rest)
    (hv : v.type.qualifiedName ∉ w.visited) (hpath : v.type.familyName ∉ v.path)
    (hstep : Step s k v.type u) :
    ⟨u, v.type.familyName :: v.path⟩ ∈ (next s w).pending ∧
      (k = .toInterface → u.qualifiedName ∈ (next s w).found.map qualifiedName) := by
  obtain ⟨e, he, hu, hk⟩ := hstep.exists_declaration
  refine next_cases (motive := fun w' => ⟨u, v.type.familyName :: v.path⟩ ∈ w'.pending ∧
    (k = .toInterface → u.qualifiedName ∈ w'.found.map qualifiedName)) hw
    (fun h => absurd h hv) ?undeclared (fun _ _ _ h => absurd h hpath) ?expanded
  case undeclared =>
    intro _ h
    rw [he] at h
    cases h
  case expanded =>
    intro e' _ he' _
    obtain rfl : e = e' := by simpa [he] using he'
    exact ⟨List.mem_append_right _ (List.mem_map_of_mem hu),
      fun hk' => mem_names_foldl_record.2 (.inr (List.mem_map_of_mem (hk hk')))⟩

/-! ### The states of a run -/

/-- One visit leads from the first state to the second. -/
def Moves (s : Snapshot) (w w' : InterfaceWalk) : Prop := w.pending ≠ [] ∧ w' = next s w

/-- The walk from the declaration passes through the state. -/
def Passes (s : Snapshot) (d : Declaration) : InterfaceWalk → Prop :=
  Relation.ReflTransGen (Moves s) (start d)

theorem Passes.start : Passes s d (start d) := .refl

theorem Passes.next (h : Passes s d w) (hw : w.pending ≠ []) : Passes s d (next s w) :=
  h.tail ⟨hw, rfl⟩

/-- Of two states of a run one leads to the other. -/
theorem Passes.total {w' : InterfaceWalk} (h : Passes s d w) (h' : Passes s d w') :
    Relation.ReflTransGen (Moves s) w w' ∨ Relation.ReflTransGen (Moves s) w' w := by
  have deterministic : Relator.RightUnique (Moves s) := fun _ _ _ h h' => h.2.trans h'.2.symm
  exact Relation.ReflTransGen.total_of_right_unique deterministic h h'

theorem pending_finish (s : Snapshot) (w : InterfaceWalk) : (finish s w).pending = [] := by
  induction w using finish.induct s with
  | case1 w hw =>
    rw [finish, dif_pos hw]
    exact hw
  | case2 w hw ih =>
    rw [finish, dif_neg hw]
    exact ih

theorem finish_next (s : Snapshot) (w : InterfaceWalk) : finish s (next s w) = finish s w := by
  by_cases hw : w.pending = []
  · rw [next_eq_self hw]
  · conv => rhs; rw [finish, dif_neg hw]

/-- A walk that has nothing pending after some visits is over. -/
theorem finish_eq_iterate (n : Nat) (h : ((next s)^[n] w).pending = []) :
    finish s w = (next s)^[n] w := by
  induction n generalizing w with
  | zero =>
    have hw : w.pending = [] := h
    rw [finish, dif_pos hw]
    rfl
  | succ n ih =>
    rw [← finish_next, ih h]
    rfl

/-- The interfaces of a type whose walk is over after some visits. -/
theorem interfacesOf_eq_iterate (n : Nat) (h : ((next s)^[n] (start d)).pending = []) :
    s.interfacesOf d = ((next s)^[n] (start d)).found := by
  rw [Snapshot.interfacesOf, run, finish_eq_iterate n h]

/-- A walk ends in a state that moves lead to. -/
theorem moves_finish (s : Snapshot) (w : InterfaceWalk) :
    Relation.ReflTransGen (Moves s) w (finish s w) := by
  induction w using finish.induct s with
  | case1 w hw => rw [finish, dif_pos hw]
  | case2 w hw ih =>
    rw [finish, dif_neg hw]
    exact .head ⟨hw, rfl⟩ ih

/-- A run ends the same from each of its states. -/
theorem Passes.finish_eq (h : Passes s d w) : finish s w = run s d := by
  induction h with
  | refl => rfl
  | @tail w w' _ hmove ih =>
    obtain ⟨-, rfl⟩ := hmove
    rw [finish_next, ih]

theorem passes_run (s : Snapshot) (d : Declaration) : Passes s d (run s d) :=
  moves_finish s (start d)

/-! ### First meetings -/

/-- The walk meets the qualified name of `t` first at `t` itself, on a way that has
expanded the declarations `path`. -/
def Meets (s : Snapshot) (d : Declaration) (t : TypeExpr) (path : List String) : Prop :=
  ∃ w rest, Passes s d w ∧ w.pending = ⟨t, path⟩ :: rest ∧ t.qualifiedName ∉ w.visited

/-- The walk expands the reference `t`: it meets the name first at `t` itself, and on
a way that has not expanded the declaration of `t`. -/
def Follows (s : Snapshot) (d : Declaration) (t : TypeExpr) : Prop :=
  ∃ path, Meets s d t path ∧ t.familyName ∉ path

/-- What holds in every state of a run. -/
structure Invariant (s : Snapshot) (d : Declaration) (w : InterfaceWalk) : Prop where
  /-- A pending reference is the end of a simple chain of followed references, and its
  path says which declarations these are. -/
  pending : ∀ v ∈ w.pending, ∃ ks ts, Chain s d.self ks ts v.type ∧
    v.path = (ts.map familyName).reverse ∧ Simple ts ∧ ∀ t ∈ ts, Follows s d t
  /-- A found interface is inherited by a simple chain of followed references. -/
  found : ∀ i ∈ w.found, ∃ ts, Inherits s d.self ts i ∧ Simple ts ∧ ∀ t ∈ ts, Follows s d t
  /-- No two found interfaces have the same qualified name. -/
  names : (w.found.map qualifiedName).Nodup
  /-- A visited name was met at some reference. -/
  visited : ∀ q ∈ w.visited, ∃ t path, Meets s d t path ∧ t.qualifiedName = q
  /-- A stopped reference was met on a way that had expanded its declaration. -/
  stopped : ∀ t ∈ w.stopped, ∃ path, Meets s d t path ∧ t.familyName ∈ path

theorem invariant_start (s : Snapshot) (d : Declaration) : Invariant s d (start d) where
  pending := by
    intro v hv
    obtain rfl := List.mem_singleton.1 hv
    exact ⟨[], [], .none _, rfl, by simp [Simple], by simp⟩
  found := by simp [InterfaceWalk.start]
  names := by simp [InterfaceWalk.start]
  visited := by simp [InterfaceWalk.start]
  stopped := by simp [InterfaceWalk.start]

/-- A visit keeps the invariant. -/
theorem Invariant.next (h : Invariant s d w) (hp : Passes s d w) (hw : w.pending ≠ []) :
    Invariant s d (next s w) := by
  obtain ⟨v, rest, hw⟩ := List.exists_cons_of_ne_nil hw
  have hrest : ∀ x ∈ rest, x ∈ w.pending := fun x hx => by
    rw [hw]
    exact List.mem_cons_of_mem _ hx
  have hmeets (hv : v.type.qualifiedName ∉ w.visited) : Meets s d v.type v.path :=
    ⟨w, rest, hp, hw, hv⟩
  have hvisited (hv : v.type.qualifiedName ∉ w.visited) :
      ∀ q ∈ v.type.qualifiedName :: w.visited,
        ∃ t path, Meets s d t path ∧ t.qualifiedName = q := by
    intro q hq
    rcases List.mem_cons.1 hq with rfl | hq
    · exact ⟨v.type, v.path, hmeets hv, rfl⟩
    · exact h.visited q hq
  refine next_cases hw ?passed ?undeclared ?stopped ?expanded
  case passed =>
    intro _
    exact { h with pending := fun x hx => h.pending x (hrest x hx) }
  case undeclared =>
    intro hv _
    exact { h with
      pending := fun x hx => h.pending x (hrest x hx)
      visited := hvisited hv }
  case stopped =>
    intro e hv _ hpath
    refine { h with
      pending := fun x hx => h.pending x (hrest x hx)
      visited := hvisited hv
      stopped := ?_ }
    intro t ht
    rcases List.mem_append.1 ht with ht | ht
    · exact h.stopped t ht
    · obtain rfl := List.mem_singleton.1 ht
      exact ⟨v.path, hmeets hv, hpath⟩
  case expanded =>
    intro e hv he hpath
    -- the chain to `v` goes on with each reference that `v` inherits
    obtain ⟨ks, ts, hchain, hts, hsimple, hfollows⟩ := h.pending v (mem_pending_front hw)
    have hsimple' : Simple (ts ++ [v.type]) := by
      have hfresh : v.type.familyName ∉ ts.map familyName := by simpa [hts] using hpath
      exact simple_snoc_iff.2 ⟨hsimple, hfresh⟩
    have hfollows' : ∀ t ∈ ts ++ [v.type], Follows s d t := by
      intro t ht
      rcases List.mem_append.1 ht with ht | ht
      · exact hfollows t ht
      · obtain rfl := List.mem_singleton.1 ht
        exact ⟨v.path, hmeets hv, hpath⟩
    refine { h with
      pending := ?_
      found := ?_
      names := nodup_foldl_record h.names
      visited := hvisited hv }
    · intro x hx
      rcases List.mem_append.1 hx with hx | hx
      · exact h.pending x (hrest x hx)
      · obtain ⟨u, hu, rfl⟩ := List.mem_map.1 hx
        obtain ⟨k, hstep⟩ := Step.exists_of_mem_inheritedAt he hu
        exact ⟨_, _, hchain.snoc hstep, by simp [hts], hsimple', hfollows'⟩
    · intro i hi
      rcases mem_of_mem_foldl_record hi with hi | hi
      · exact h.found i hi
      · exact ⟨_, hchain.inherits (.toInterface he hi), hsimple', hfollows'⟩

/-- The invariant holds in every state of a run. -/
theorem Passes.invariant (h : Passes s d w) : Invariant s d w := by
  induction h with
  | refl => exact invariant_start s d
  | tail hp hmove ih =>
    obtain ⟨hw, rfl⟩ := hmove
    exact ih.next hp hw

/-! ### What the walk keeps -/

/-- The qualified name was visited or is still to be visited. -/
def Covers (w : InterfaceWalk) (q : String) : Prop :=
  q ∈ w.visited ∨ q ∈ w.pending.map (·.type.qualifiedName)

/-- All that the state knows, the later state knows too. -/
structure Grows (w w' : InterfaceWalk) : Prop where
  /-- A visited name stays visited. -/
  visited : ∀ q ∈ w.visited, q ∈ w'.visited
  /-- A pending name stays pending or is visited. -/
  covers : ∀ q, w.Covers q → w'.Covers q
  /-- A found name stays found. -/
  found : ∀ q ∈ w.found.map qualifiedName, q ∈ w'.found.map qualifiedName
  /-- A stopped reference stays stopped. -/
  stopped : ∀ t ∈ w.stopped, t ∈ w'.stopped

theorem Grows.refl (w : InterfaceWalk) : Grows w w :=
  ⟨fun _ h => h, fun _ h => h, fun _ h => h, fun _ h => h⟩

theorem Grows.trans {w₁ w₂ w₃ : InterfaceWalk} (h : Grows w₁ w₂) (h' : Grows w₂ w₃) :
    Grows w₁ w₃ where
  visited q hq := h'.visited q (h.visited q hq)
  covers q hq := h'.covers q (h.covers q hq)
  found q hq := h'.found q (h.found q hq)
  stopped t ht := h'.stopped t (h.stopped t ht)

theorem grows_next (s : Snapshot) (w : InterfaceWalk) : Grows w (next s w) := by
  cases hw : w.pending with
  | nil =>
    rw [next_eq_self hw]
    exact .refl w
  | cons v rest =>
    -- the name that is taken from the front is visited afterwards, and the others wait on
    have covers (visited : List String) (pending : List Visit)
        (hv : v.type.qualifiedName ∈ visited) (hs : ∀ q ∈ w.visited, q ∈ visited)
        (hp : ∀ x ∈ rest, x ∈ pending) (q : String) (hq : w.Covers q) :
        q ∈ visited ∨ q ∈ pending.map (·.type.qualifiedName) := by
      rcases hq with hq | hq
      · exact .inl (hs q hq)
      · rw [hw, List.map_cons, List.mem_cons] at hq
        rcases hq with rfl | hq
        · exact .inl hv
        · obtain ⟨x, hx, rfl⟩ := List.mem_map.1 hq
          exact .inr (List.mem_map_of_mem (hp x hx))
    have mem_cons : ∀ q ∈ w.visited, q ∈ v.type.qualifiedName :: w.visited :=
      fun q hq => List.mem_cons_of_mem _ hq
    refine next_cases hw ?passed ?undeclared ?stopped ?expanded
    case passed =>
      intro hv
      exact ⟨fun q hq => hq, covers _ _ hv (fun q hq => hq) fun x hx => hx, fun q hq => hq,
        fun t ht => ht⟩
    case undeclared =>
      intro _ _
      exact ⟨mem_cons, covers _ _ List.mem_cons_self mem_cons fun x hx => hx, fun q hq => hq,
        fun t ht => ht⟩
    case stopped =>
      intro e _ _ _
      exact ⟨mem_cons, covers _ _ List.mem_cons_self mem_cons fun x hx => hx, fun q hq => hq,
        fun t ht => List.mem_append_left _ ht⟩
    case expanded =>
      intro e _ _ _
      exact ⟨mem_cons,
        covers _ _ List.mem_cons_self mem_cons fun x hx => List.mem_append_left _ hx,
        fun q hq => mem_names_foldl_record.2 (.inl hq), fun t ht => ht⟩

theorem grows_of_moves {w' : InterfaceWalk} (h : Relation.ReflTransGen (Moves s) w w') :
    Grows w w' := by
  induction h with
  | refl => exact .refl w
  | tail _ hmove ih =>
    obtain ⟨-, rfl⟩ := hmove
    exact ih.trans (grows_next s _)

theorem Passes.grows (h : Passes s d w) : Grows w (run s d) :=
  grows_of_moves (h.finish_eq ▸ moves_finish s w)

/-- A run ends with nothing pending. -/
theorem visited_of_covers (h : (run s d).Covers q) : q ∈ (run s d).visited := by
  have hpending : (run s d).pending = [] := pending_finish s _
  rcases h with h | h
  · exact h
  · rw [hpending] at h
    cases h

/-! ### What comes of a first meeting -/

/-- After a visit the name is visited. -/
theorem mem_visited_next {v : Visit} {rest : List Visit} (hw : w.pending = v :: rest) :
    v.type.qualifiedName ∈ (next s w).visited := by
  refine next_cases (motive := fun w' => v.type.qualifiedName ∈ w'.visited) hw ?_ ?_ ?_ ?_
  · exact fun hv => hv
  · exact fun _ _ => List.mem_cons_self
  · exact fun _ _ _ _ => List.mem_cons_self
  · exact fun _ _ _ _ => List.mem_cons_self

/-- Each name is met first at one reference only, on one way. -/
theorem Meets.unique {path path' : List String} (h : Meets s d t path) (h' : Meets s d u path')
    (hname : t.qualifiedName = u.qualifiedName) : t = u ∧ path = path' := by
  -- of two different states the later one has visited the name already
  have not_later {w w' : InterfaceWalk} {v v' : Visit} {rest rest' : List Visit}
      (hlater : Relation.ReflTransGen (Moves s) w w') (hw : w.pending = v :: rest)
      (hw' : w'.pending = v' :: rest') (hv : v.type.qualifiedName ∉ w'.visited) : v = v' := by
    rcases hlater.cases_head with rfl | ⟨w₁, ⟨-, rfl⟩, hlater⟩
    · exact (List.cons.inj (hw.symm.trans hw')).1
    · exact absurd ((grows_of_moves hlater).visited _ (mem_visited_next hw)) hv
  obtain ⟨w, rest, hp, hw, hv⟩ := h
  obtain ⟨w', rest', hp', hw', hv'⟩ := h'
  have heq : (⟨t, path⟩ : Visit) = ⟨u, path'⟩ := by
    rcases hp.total hp' with hlater | hlater
    · exact not_later hlater hw hw' (by rw [hname]; exact hv')
    · exact (not_later hlater hw' hw (by rw [← hname]; exact hv)).symm
  exact ⟨congrArg Visit.type heq, congrArg Visit.path heq⟩

/-- A followed reference hands on what it inherits: all of it is visited, and its
interfaces are found. -/
theorem Follows.step {k : StepKind} (h : Follows s d t) (hstep : Step s k t u) :
    u.qualifiedName ∈ (run s d).visited ∧
      (k = .toInterface → u.qualifiedName ∈ (s.interfacesOf d).map qualifiedName) := by
  obtain ⟨path, ⟨w, rest, hp, hw, hv⟩, hpath⟩ := h
  obtain ⟨hpending, hfound⟩ := next_of_step hw hv hpath hstep
  have hnext : Grows (next s w) (run s d) := (Passes.next hp (by simp [hw])).grows
  have hcovers : (next s w).Covers u.qualifiedName := .inr (List.mem_map_of_mem hpending)
  exact ⟨visited_of_covers (hnext.covers _ hcovers), fun hk => hnext.found _ (hfound hk)⟩

/-- A declared reference that is met on a way that has expanded its declaration is
stopped. -/
theorem Meets.mem_stopped {e : Declaration} {path : List String} (h : Meets s d t path)
    (he : s.find? t = some e) (hpath : t.familyName ∈ path) : t ∈ (run s d).stopped := by
  obtain ⟨w, rest, hp, hw, hv⟩ := h
  have hnext : Grows (next s w) (run s d) := (Passes.next hp (by simp [hw])).grows
  apply hnext.stopped t
  refine next_cases (motive := fun w' => t ∈ w'.stopped) hw
    (fun h => absurd h hv) ?undeclared ?stopped (fun _ _ _ h => absurd hpath h)
  case undeclared =>
    intro _ h
    rw [he] at h
    cases h
  case stopped =>
    intro _ _ _ _
    exact List.mem_append_right _ List.mem_cons_self

/-- The run begins with the declaration itself. -/
theorem self_visited (s : Snapshot) (d : Declaration) :
    d.self.qualifiedName ∈ (run s d).visited :=
  visited_of_covers (Passes.start.grows.covers _ (.inr (by simp [InterfaceWalk.start])))

/-- An interface chain ends with a step from one of its references to an interface. -/
theorem exists_last_step {ts : List TypeExpr} (h : Inherits s t ts u) :
    ∃ x ∈ ts, Step s .toInterface x u := by
  obtain ⟨ks, ts, x, -, hstep, rfl⟩ := h.exists_chain_to_last
  exact ⟨x, List.mem_append_right _ List.mem_cons_self, hstep⟩

/-- The walk finds exactly what simple chains of followed references inherit. -/
theorem mem_names_found_iff :
    q ∈ (s.interfacesOf d).map qualifiedName ↔
      ∃ ts u, Inherits s d.self ts u ∧ Simple ts ∧ (∀ t ∈ ts, Follows s d t) ∧
        u.qualifiedName = q := by
  constructor
  · intro hq
    obtain ⟨u, hu, rfl⟩ := List.mem_map.1 hq
    obtain ⟨ts, hinherits, hsimple, hfollows⟩ := (passes_run s d).invariant.found u hu
    exact ⟨ts, u, hinherits, hsimple, hfollows, rfl⟩
  · rintro ⟨ts, u, hinherits, -, hfollows, rfl⟩
    obtain ⟨x, hx, hstep⟩ := exists_last_step hinherits
    exact ((hfollows x hx).step hstep).2 rfl

end InterfaceWalk

end InjectionPlan
