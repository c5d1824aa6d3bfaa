import InjectionPlan.Proofs.DistinctPairings
import InjectionPlan.Proofs.InheritedInterfaces
import Mathlib.Order.Lattice.Nat

/-! # Nearer interfaces come first

    The walk takes the pending references in the order in which they came in, so those
    on shorter ways are expanded first.  An interface is recorded when the reference
    that inherits it is expanded, and other references of its name may be pending by
    then; so the order of what is found follows from the whole run, not from a visit.

    - `Levelled`: the pending references are ordered by the length of the way to them,
      and these lengths differ by one at most;
    - `Chain.meetsWithin`: if the guard never stops the walk, each name at the end of a
      chain is met on a way that is not longer than the chain;
    - `mem_found_of_nearer`: so all interfaces on chains no longer than the next way are
      found already, and those found next are exactly one step further off;
    - `interfacesOf_nearest_first`: in a module without recursion the interfaces are in
      the order of their distances, and the type's own ones stand in front.

    A type's own interfaces are listed as the type sees itself.  Its parameters stand
    for themselves then, and they are plain names: arguments that a parameter is written
    with are lost.
-/

namespace InjectionPlan

open TypeExpr InterfaceWalk

variable {s : Snapshot} {d : Declaration} {t u : TypeExpr} {q : String}

/-- The number of steps on the way to a pending reference. -/
def Visit.depth (v : Visit) : Nat := v.path.length

namespace InterfaceWalk

variable {w w' : InterfaceWalk} {v x : Visit} {rest : List Visit} {path : List String} {n : Nat}

/-! ### Levels -/

/-- The pending visits are in the order of their depths, and these differ by one at
most. -/
structure Levelled (pending : List Visit) : Prop where
  /-- No visit is deeper than one behind it. -/
  ordered : pending.Pairwise fun v x => v.depth ≤ x.depth
  /-- No visit is two steps deeper than another one. -/
  narrow : ∀ v ∈ pending, ∀ x ∈ pending, x.depth ≤ v.depth + 1

theorem Levelled.front_le (h : Levelled w.pending) (hw : w.pending = v :: rest)
    (hx : x ∈ w.pending) : v.depth ≤ x.depth := by
  have hordered := h.ordered
  rw [hw] at hx hordered
  rcases List.mem_cons.1 hx with rfl | hx
  · exact Nat.le_refl _
  · exact List.rel_of_pairwise_cons hordered hx

/-- A visit brings in references that are one step deeper than itself. -/
theorem Levelled.next (h : Levelled w.pending) : Levelled (next s w).pending := by
  cases hw : w.pending with
  | nil =>
    rw [next_eq_self hw]
    exact h
  | cons v rest =>
    obtain ⟨more, hpending, hmore⟩ := exists_pending_next (s := s) hw
    have hmem : ∀ x ∈ rest, x ∈ w.pending := fun x hx => by
      rw [hw]
      exact List.mem_cons_of_mem _ hx
    have hv : v ∈ w.pending := mem_pending_front hw
    have hdepth : ∀ x ∈ more, x.depth = v.depth + 1 := hmore
    rw [hpending]
    constructor
    · refine List.pairwise_append.2 ⟨?_, ?_, ?_⟩
      · have hordered := h.ordered
        rw [hw] at hordered
        exact (List.pairwise_cons.1 hordered).2
      · apply List.pairwise_of_forall_mem_list
        intro x hx y hy
        rw [hdepth x hx, hdepth y hy]
      · intro x hx y hy
        rw [hdepth y hy]
        exact h.narrow v hv x (hmem x hx)
    · intro x hx y hy
      rcases List.mem_append.1 hx with hx | hx <;> rcases List.mem_append.1 hy with hy | hy
      · exact h.narrow x (hmem x hx) y (hmem y hy)
      · have := h.front_le hw (hmem x hx)
        rw [hdepth y hy]
        omega
      · have := h.narrow v hv y (hmem y hy)
        rw [hdepth x hx]
        omega
      · rw [hdepth x hx, hdepth y hy]
        omega

theorem Passes.levelled (h : Passes s d w) : Levelled w.pending := by
  induction h with
  | refl => exact ⟨by simp [InterfaceWalk.start], by simp [InterfaceWalk.start]⟩
  | tail _ hmove ih =>
    obtain ⟨-, rfl⟩ := hmove
    exact ih.next

/-- Nothing that is ever pending later is less deep than the next visit. -/
theorem Passes.front_le (hp : Passes s d w) (hw : w.pending = v :: rest)
    (hlater : Relation.ReflTransGen (Moves s) w w') : ∀ x ∈ w'.pending, v.depth ≤ x.depth := by
  induction hlater with
  | refl => exact fun x hx => hp.levelled.front_le hw hx
  | @tail w₁ w₂ _ hmove ih =>
    obtain ⟨hne, rfl⟩ := hmove
    obtain ⟨y, rest₁, hw₁⟩ := List.exists_cons_of_ne_nil hne
    obtain ⟨more, hpending, hmore⟩ := exists_pending_next (s := s) hw₁
    intro x hx
    rw [hpending] at hx
    rcases List.mem_append.1 hx with hx | hx
    · exact ih x (by rw [hw₁]; exact List.mem_cons_of_mem _ hx)
    · have hy := ih y (mem_pending_front hw₁)
      have hdepth : x.depth = y.depth + 1 := hmore x hx
      omega

/-! ### How far off a name is met -/

/-- The walk meets the name first on a way of `n` steps at most. -/
def MeetsWithin (s : Snapshot) (d : Declaration) (q : String) (n : Nat) : Prop :=
  ∃ t path, Meets s d t path ∧ t.qualifiedName = q ∧ path.length ≤ n

/-- A visited name was met on a way that is not longer than those still pending. -/
theorem Passes.meetsWithin_of_visited (hp : Passes s d w) (hq : q ∈ w.visited)
    (hv : v ∈ w.pending) : MeetsWithin s d q v.depth := by
  obtain ⟨t, path, hmeets, rfl⟩ := hp.invariant.visited q hq
  refine ⟨t, path, hmeets, rfl, ?_⟩
  obtain ⟨w₀, rest₀, hp₀, hw₀, hfresh⟩ := hmeets
  rcases hp₀.total hp with hlater | hearlier
  · exact hp₀.front_le hw₀ hlater v hv
  · exact absurd ((grows_of_moves hearlier).visited _ hq) hfresh

/-- The name of a pending reference is met on a way that is not longer than the way to
the reference. -/
theorem Passes.meetsWithin (hp : Passes s d w) (hv : v ∈ w.pending) :
    MeetsWithin s d v.type.qualifiedName v.depth := by
  induction w using finish.induct s with
  | case1 w hw =>
    rw [hw] at hv
    cases hv
  | case2 w hw ih =>
    obtain ⟨x, rest, hx⟩ := List.exists_cons_of_ne_nil hw
    have hcases : v = x ∨ v ∈ rest := by simpa [hx] using hv
    rcases hcases with rfl | hrest
    · by_cases hq : v.type.qualifiedName ∈ w.visited
      · exact hp.meetsWithin_of_visited hq hv
      · exact ⟨v.type, v.path, ⟨w, rest, hp, hx, hq⟩, rfl, Nat.le_refl _⟩
    · exact ih (hp.next hw) (mem_pending_next hx hrest)

/-- If the next visit is deeper than the way on which a name was met, the visit that has
met it is over. -/
theorem Meets.exists_earlier (h : Meets s d t path) (hp : Passes s d w)
    (hw : w.pending = v :: rest) (hlt : path.length < v.depth) :
    ∃ w₀ rest₀, Passes s d w₀ ∧ w₀.pending = ⟨t, path⟩ :: rest₀ ∧
      t.qualifiedName ∉ w₀.visited ∧ Grows (next s w₀) w := by
  obtain ⟨w₀, rest₀, hp₀, hw₀, hfresh⟩ := h
  refine ⟨w₀, rest₀, hp₀, hw₀, hfresh, ?_⟩
  rcases hp₀.total hp with hlater | hearlier
  · rcases hlater.cases_head with rfl | ⟨w₁, ⟨-, rfl⟩, hlater⟩
    · obtain rfl : (⟨t, path⟩ : Visit) = v := (List.cons.inj (hw₀.symm.trans hw)).1
      exact absurd hlt (Nat.lt_irrefl _)
    · exact grows_of_moves hlater
  · have hle : v.depth ≤ path.length :=
      hp.front_le hw hearlier ⟨t, path⟩ (mem_pending_front hw₀)
    omega

/-! ### Walks that are not stopped -/

/-- Where the guard never stops the walk, a reference is expanded when its name is first
met. -/
theorem Meets.not_mem_path {k : StepKind} (h : Meets s d t path)
    (hfree : (run s d).stopped = []) (hstep : Step s k t u) : t.familyName ∉ path := by
  intro hpath
  obtain ⟨e, he, -, -⟩ := hstep.exists_declaration
  have hstopped := h.mem_stopped he hpath
  rw [hfree] at hstopped
  cases hstopped

/-- A step leads to a name that is met one step further on at most. -/
theorem MeetsWithin.step {k : StepKind} (hs : s.WellNamed) (hd : d ∈ s.types)
    (hfree : (run s d).stopped = []) (ht : t.WellNamed) (h : MeetsWithin s d t.qualifiedName n)
    (hstep : Step s k t u) : MeetsWithin s d u.qualifiedName (n + 1) := by
  obtain ⟨t', path, hmeets, hname, hle⟩ := h
  obtain ⟨u', hstep', hname'⟩ := hstep.sameName ht (hmeets.wellNamed hs hd) hname.symm
  have hpath := hmeets.not_mem_path hfree hstep'
  obtain ⟨w, rest, hp, hw, hfresh⟩ := hmeets
  obtain ⟨hpending, -⟩ := next_of_step hw hfresh hpath hstep'
  obtain ⟨t₁, path₁, hmeets₁, hname₁, hle₁⟩ := (hp.next (by simp [hw])).meetsWithin hpending
  have hdepth : path₁.length ≤ path.length + 1 := hle₁
  exact ⟨t₁, path₁, hmeets₁, hname₁.trans hname', by omega⟩

end InterfaceWalk

/-- If the guard never stops the walk, a chain leads to a name that is met on a way not
longer than the chain. -/
theorem Chain.meetsWithin {ks : List StepKind} {ts : List TypeExpr} {n : Nat} (hs : s.WellNamed)
    (hd : d ∈ s.types) (hfree : (InterfaceWalk.run s d).stopped = []) (h : Chain s t ks ts u)
    (ht : t.WellNamed) (hmet : MeetsWithin s d t.qualifiedName n) :
    MeetsWithin s d u.qualifiedName (n + ts.length) := by
  induction h generalizing n with
  | none => exact hmet
  | step hstep _ ih =>
    have hu := ih (hstep.every shallow_partWellNamed hs ht) (hmet.step hs hd hfree ht hstep)
    rw [List.length_cons, Nat.add_comm _ 1, ← Nat.add_assoc]
    exact hu

namespace InterfaceWalk

variable {w : InterfaceWalk} {v : Visit} {rest : List Visit}

/-! ### Distances -/

/-- What an interface chain that is not longer than the way to the next visit leads to is
found already. -/
theorem Passes.mem_found_of_nearer {ts : List TypeExpr} (hs : s.WellNamed) (hd : d ∈ s.types)
    (hfree : (run s d).stopped = []) (hp : Passes s d w) (hw : w.pending = v :: rest)
    (h : Inherits s d.self ts u) (hlen : ts.length ≤ v.depth) :
    u.qualifiedName ∈ w.found.map qualifiedName := by
  obtain ⟨ks, us, x, hchain, hstep, rfl⟩ := h.exists_chain_to_last
  -- the visit that has met the last reference before the interface is over
  have hself : MeetsWithin s d d.self.qualifiedName 0 :=
    Passes.start.meetsWithin (v := ⟨d.self, []⟩) List.mem_cons_self
  obtain ⟨x', path, hmeets, hname, hle⟩ :=
    hchain.meetsWithin hs hd hfree (hs.self d hd) hself
  have hlt : path.length < v.depth := by
    rw [List.length_append, List.length_singleton] at hlen
    omega
  obtain ⟨u', hstep', hname'⟩ :=
    hstep.sameName (hchain.wellNamed hs hd) (hmeets.wellNamed hs hd) hname.symm
  have hpath := hmeets.not_mem_path hfree hstep'
  obtain ⟨w₀, rest₀, -, hw₀, hfresh, hgrows⟩ := hmeets.exists_earlier hp hw hlt
  rw [← hname']
  exact hgrows.found _ ((next_of_step hw₀ hfresh hpath hstep').2 rfl)

end InterfaceWalk

/-- Whether two references are written the same way. -/
def TypeExpr.sameName (t u : TypeExpr) : Bool := t.qualifiedName == u.qualifiedName

/-- The number of steps of the shortest chain by which the type inherits an interface of
the qualified name of `t`. -/
noncomputable def Snapshot.distance (s : Snapshot) (d : Declaration) (t : TypeExpr) : Nat :=
  sInf {n | ∃ ts u, Inherits s d.self ts u ∧ u.qualifiedName = t.qualifiedName ∧ ts.length = n}

theorem Snapshot.distance_le {ts : List TypeExpr} (h : Inherits s d.self ts u)
    (hname : u.qualifiedName = t.qualifiedName) : s.distance d t ≤ ts.length :=
  Nat.sInf_le ⟨ts, u, h, hname, rfl⟩

theorem Snapshot.distance_eq {ts : List TypeExpr} (h : Inherits s d.self ts t)
    (hleast : ∀ us u, Inherits s d.self us u → u.qualifiedName = t.qualifiedName →
      ts.length ≤ us.length) : s.distance d t = ts.length := by
  apply Nat.le_antisymm (distance_le h rfl)
  refine le_csInf ⟨ts.length, ts, t, h, rfl, rfl⟩ ?_
  rintro n ⟨us, u, hu, hname, rfl⟩
  exact hleast us u hu hname

namespace InterfaceWalk

variable {w : InterfaceWalk} {v : Visit} {rest : List Visit}

/-- Recording adds the references of new names, the first of each name. -/
theorem foldl_record_eq (found ts : List TypeExpr) :
    ts.foldl record found =
      found ++ (ts.filter fun t => !found.any (sameName t)).eraseDupsBy sameName := by
  induction ts generalizing found with
  | nil => simp
  | cons t ts ih =>
    have hany : found.any (sameName t) = true ↔ t.qualifiedName ∈ found.map qualifiedName := by
      rw [List.any_eq_true, List.mem_map]
      simp only [sameName, beq_iff_eq]
      exact exists_congr fun x => and_congr_right fun _ => eq_comm
    rw [List.foldl_cons, ih, List.filter_cons]
    rcases record_cases found t with ⟨h, e⟩ | ⟨h, e⟩
    · simp [e, hany.2 h]
    · have hnew : found.any (sameName t) = false := by simpa using mt hany.1 h
      -- what is new besides `t` is new to `found` and not named like `t`
      have hfurther : (ts.filter fun u => !(found ++ [t]).any (sameName u)) =
          (ts.filter fun u => !found.any (sameName u)).filter fun u => sameName u t = false := by
        rw [List.filter_filter]
        apply List.filter_congr
        intro u _
        simp [Bool.and_comm]
      rw [e, hnew, Bool.not_false, if_pos rfl, List.eraseDupsBy_cons, hfurther,
        List.append_assoc, List.singleton_append]

/-- The first references of each name are those that recording keeps. -/
theorem eraseDupsBy_eq_foldl_record (ts : List TypeExpr) :
    ts.eraseDupsBy sameName = ts.foldl record [] := by
  rw [foldl_record_eq]
  simp

theorem mem_names_eraseDupsBy {ts : List TypeExpr} :
    q ∈ (ts.eraseDupsBy sameName).map qualifiedName ↔ q ∈ ts.map qualifiedName := by
  rw [eraseDupsBy_eq_foldl_record, mem_names_foldl_record]
  simp

/-- What recording adds to the references that were found is one of the others, and its
name is new. -/
theorem new_of_recorded {found fresh ts : List TypeExpr}
    (h : ts.foldl record found = found ++ fresh) (hnames : (found.map qualifiedName).Nodup)
    (ht : t ∈ fresh) : t ∈ ts ∧ t.qualifiedName ∉ found.map qualifiedName := by
  have hnew : t.qualifiedName ∉ found.map qualifiedName := by
    have hnodup : ((ts.foldl record found).map qualifiedName).Nodup := nodup_foldl_record hnames
    rw [h, List.map_append] at hnodup
    intro hfound
    exact List.disjoint_of_nodup_append hnodup hfound (List.mem_map_of_mem ht)
  have hrecorded : t ∈ ts.foldl record found := by
    rw [h]
    exact List.mem_append_right _ ht
  rcases mem_of_mem_foldl_record hrecorded with hfound | hothers
  · exact absurd (List.mem_map_of_mem hfound) hnew
  · exact ⟨hothers, hnew⟩

/-- What a visit finds is one step further off than the way to the visit. -/
theorem Passes.exists_found_next (hs : s.WellNamed) (hd : d ∈ s.types)
    (hfree : (run s d).stopped = []) (hp : Passes s d w) (hw : w.pending = v :: rest) :
    ∃ fresh, (InterfaceWalk.next s w).found = w.found ++ fresh ∧ ∀ i ∈ fresh,
      s.distance d i = v.depth + 1 ∧ ∃ ts, Inherits s d.self ts i ∧ ts.length = v.depth + 1 := by
  refine next_cases (motive := fun w' => ∃ fresh, w'.found = w.found ++ fresh ∧ ∀ i ∈ fresh,
    s.distance d i = v.depth + 1 ∧ ∃ ts, Inherits s d.self ts i ∧ ts.length = v.depth + 1) hw
    ?passed ?undeclared ?stopped ?expanded
  case passed =>
    intro _
    exact ⟨[], by simp, by simp⟩
  case undeclared =>
    intro _ _
    exact ⟨[], by simp, by simp⟩
  case stopped =>
    intro _ _ _ _
    exact ⟨[], by simp, by simp⟩
  case expanded =>
    intro e _ he _
    have hrecorded := foldl_record_eq w.found (e.interfacesAt v.type)
    refine ⟨_, hrecorded, ?_⟩
    intro i hi
    obtain ⟨hinherited, hnew⟩ := new_of_recorded hrecorded hp.invariant.names hi
    -- the way to the visit and one more step
    obtain ⟨ks, ts, hchain, hts, -, -⟩ := hp.invariant.pending v (mem_pending_front hw)
    have hinherits := hchain.inherits (.toInterface he hinherited)
    have hlen : (ts ++ [v.type]).length = v.depth + 1 := by simp [Visit.depth, hts]
    refine ⟨?_, _, hinherits, hlen⟩
    rw [← hlen]
    apply Snapshot.distance_eq hinherits
    intro us u hu hname
    by_contra hshort
    -- a shorter chain would have been followed before
    have hle : us.length ≤ v.depth := by omega
    exact hnew (hname ▸ hp.mem_found_of_nearer hs hd hfree hw hu hle)

/-- What holds of the found interfaces in every state of a run. -/
structure Sorted (s : Snapshot) (d : Declaration) (w : InterfaceWalk) : Prop where
  /-- No interface is further off than one behind it. -/
  ordered : w.found.Pairwise fun i j => s.distance d i ≤ s.distance d j
  /-- A visit that is still pending finds nothing nearer. -/
  near : ∀ v ∈ w.pending, ∀ i ∈ w.found, s.distance d i ≤ v.depth + 1
  /-- A shortest chain to the name leads to the found reference itself. -/
  reached : ∀ i ∈ w.found, ∃ ts, Inherits s d.self ts i ∧ ts.length = s.distance d i

/-- A visit keeps the order. -/
theorem Sorted.next (hs : s.WellNamed) (hd : d ∈ s.types) (hfree : (run s d).stopped = [])
    (hp : Passes s d w) (hw : w.pending = v :: rest) (h : Sorted s d w) :
    Sorted s d (next s w) := by
  obtain ⟨fresh, hfound, hfresh⟩ := hp.exists_found_next hs hd hfree hw
  have hv : v ∈ w.pending := mem_pending_front hw
  have hnear : ∀ i ∈ (InterfaceWalk.next s w).found, s.distance d i ≤ v.depth + 1 := by
    intro i hi
    rw [hfound] at hi
    rcases List.mem_append.1 hi with hi | hi
    · exact h.near v hv i hi
    · exact Nat.le_of_eq (hfresh i hi).1
  refine ⟨?_, ?_, ?_⟩
  · rw [hfound]
    refine List.pairwise_append.2 ⟨h.ordered, ?_, ?_⟩
    · apply List.pairwise_of_forall_mem_list
      intro i hi j hj
      rw [(hfresh i hi).1, (hfresh j hj).1]
    · intro i hi j hj
      rw [(hfresh j hj).1]
      exact h.near v hv i hi
  · intro x hx i hi
    have hle := hp.front_le hw (.single ⟨by simp [hw], rfl⟩) x hx
    have hi := hnear i hi
    omega
  · intro i hi
    rw [hfound] at hi
    rcases List.mem_append.1 hi with hi | hi
    · exact h.reached i hi
    · obtain ⟨hdistance, ts, hinherits, hlen⟩ := hfresh i hi
      exact ⟨ts, hinherits, hlen.trans hdistance.symm⟩

theorem Passes.sorted (hs : s.WellNamed) (hd : d ∈ s.types) (hfree : (run s d).stopped = [])
    (h : Passes s d w) : Sorted s d w := by
  induction h with
  | refl =>
    exact ⟨by simp [InterfaceWalk.start], by simp [InterfaceWalk.start],
      by simp [InterfaceWalk.start]⟩
  | tail hp hmove ih =>
    obtain ⟨hne, rfl⟩ := hmove
    obtain ⟨v, rest, hw⟩ := List.exists_cons_of_ne_nil hne
    exact ih.next hs hd hfree hp hw

/-! ### The front of the list -/

/-- What is found stays in its place. -/
theorem isPrefix_found_of_moves {w' : InterfaceWalk} (h : Relation.ReflTransGen (Moves s) w w') :
    w.found <+: w'.found := by
  induction h with
  | refl => exact List.prefix_refl _
  | @tail w₁ w₂ _ hmove ih =>
    obtain ⟨hne, rfl⟩ := hmove
    obtain ⟨v, rest, hw⟩ := List.exists_cons_of_ne_nil hne
    apply ih.trans
    refine next_cases (motive := fun w' => w₁.found <+: w'.found) hw ?_ ?_ ?_ ?_
    · exact fun _ => List.prefix_refl _
    · exact fun _ _ => List.prefix_refl _
    · exact fun _ _ _ _ => List.prefix_refl _
    · exact fun _ _ _ _ => ⟨_, (foldl_record_eq _ _).symm⟩

/-- The first visit finds the type's own interfaces. -/
theorem found_next_start (hd : d ∈ s.types) :
    (next s (start d)).found = (d.interfacesAt d.self).eraseDupsBy sameName := by
  rw [eraseDupsBy_eq_foldl_record]
  simp [InterfaceWalk.next, InterfaceWalk.start, visit, expand, Snapshot.find?_self hd]

end InterfaceWalk

/-- The type's own interfaces, the first of each name, begin the list. -/
theorem Snapshot.own_isPrefix (hd : d ∈ s.types) :
    (d.interfacesAt d.self).eraseDupsBy sameName <+: s.interfacesOf d := by
  have hmoves := moves_finish s (InterfaceWalk.next s (start d))
  rw [finish_next] at hmoves
  rw [← found_next_start hd]
  exact isPrefix_found_of_moves hmoves

/-- An interface is one step off if the type's own list has its name. -/
theorem Snapshot.distance_eq_one_iff (hd : d ∈ s.types)
    (hreached : ∃ ts, Inherits s d.self ts t ∧ ts.length = s.distance d t) :
    s.distance d t = 1 ↔ t.qualifiedName ∈ (d.interfacesAt d.self).map qualifiedName := by
  have hself := find?_self hd
  obtain ⟨ts, hinherits, hlen⟩ := hreached
  obtain ⟨ks, us, x, hchain, hstep, rfl⟩ := hinherits.exists_chain_to_last
  rw [List.length_append, List.length_singleton] at hlen
  constructor
  · intro hone
    obtain rfl : us = [] := List.length_eq_zero_iff.1 (by omega)
    -- the one step starts from the type itself
    obtain rfl : d.self = x := by cases hchain; rfl
    obtain ⟨e, he, -, hown⟩ := hstep.exists_declaration
    obtain rfl : d = e := by simpa [hself] using he
    exact List.mem_map_of_mem (hown rfl)
  · intro hname
    obtain ⟨i, hi, hname⟩ := List.mem_map.1 hname
    have hdirect : Inherits s d.self [d.self] i := (Chain.none _).inherits (.toInterface hself hi)
    have hle := distance_le hdirect hname
    rw [List.length_singleton] at hle
    omega

/-! ### Interfaces as they are written -/

/-- The parameters of a type stand for themselves in its own form. -/
theorem Binding.eq_param_of_lookup {ps : List String} {n : String} {a : TypeExpr}
    (h : (Binding.of ps (ps.map .param)).lookup n = some a) : a = .param n := by
  induction ps with
  | nil => cases h
  | cons q ps ih =>
    rw [List.map_cons] at h
    by_cases hq : n = q
    · rw [hq, lookup_of_self] at h
      rw [hq, Option.some.inj h]
    · rw [lookup_of_ne hq] at h
      exact ih h

/-- A reference whose parameters are plain names is seen from the type as it is written. -/
theorem TypeExpr.substitute_own {ps : List String}
    (ht : t.Every fun u => u.parameterIsBare = true) :
    t.substitute (Binding.of ps (ps.map .param)) = t := by
  induction t using substitutionInduction with
  | parameter t hpar =>
    have hbare := eq_param_of_parameterIsBare ht.self hpar
    rw [substitute_of_parameter hpar]
    cases ha : (Binding.of ps (ps.map .param)).lookup t.name with
    | none => rfl
    | some a => rw [Option.getD_some, Binding.eq_param_of_lookup ha, ← hbare]
  | plain h hpar => exact substitute_plain hpar
  | applied h as hpar ih =>
    have has : as.map (substitute (Binding.of ps (ps.map .param))) = as :=
      (List.map_congr_left fun a ha => ih a ha (ht.args a ha)).trans (List.map_id as)
    rw [substitute_applied hpar, has]
  | erased h n hpar => exact substitute_erased hpar

theorem Declaration.interfacesAt_self
    (h : ∀ i ∈ d.interfaces, i.Every fun u => u.parameterIsBare = true) :
    d.interfacesAt d.self = d.interfaces := by
  rw [interfacesAt, bindingAt, args_self]
  exact (List.map_congr_left fun i hi => substitute_own (h i hi)).trans (List.map_id _)

/-! ### The order of what is found -/

/-- The interfaces of the type are in the order of their distances, and the nearest ones
are those in the list `own`, the first of each name, in the same order. -/
structure Snapshot.NearestFirst (s : Snapshot) (d : Declaration) (own : List TypeExpr) : Prop where
  /-- No interface is further off than one behind it. -/
  ordered : (s.interfacesOf d).Pairwise fun i j => s.distance d i ≤ s.distance d j
  /-- The list begins with its own part. -/
  front : own.eraseDupsBy sameName <+: s.interfacesOf d
  /-- Its own part are the interfaces that are one step off. -/
  nearest : ∀ i ∈ s.interfacesOf d, s.distance d i = 1 ↔ i ∈ own.eraseDupsBy sameName

/-- In a module without recursion whose names can be read back, the interfaces of a type
are in the order of the shortest chains to their names, and each is the end of such a
chain itself.  The type's own interfaces stand in front, as the type sees itself: each of
its parameters is a plain name there.  If its interface list writes the parameters so,
the list is the front of the result as it stands, with repeated names left out. -/
theorem interfacesOf_nearest_first (hs : s.WellNamed) (hr : s.NonRecursive) (hd : d ∈ s.types) :
    (∀ i ∈ s.interfacesOf d, ∃ ts, Inherits s d.self ts i ∧ ts.length = s.distance d i) ∧
    s.NearestFirst d (d.interfacesAt d.self) ∧
    ((∀ i ∈ d.interfaces, i.Every fun u => u.parameterIsBare = true) →
      s.NearestFirst d d.interfaces) := by
  have hsorted := (passes_run s d).sorted hs hd (stopped_eq_nil hr hd)
  have hfront := Snapshot.own_isPrefix hd
  have hnearest : s.NearestFirst d (d.interfacesAt d.self) := by
    refine ⟨hsorted.ordered, hfront, ?_⟩
    intro i hi
    rw [Snapshot.distance_eq_one_iff hd (hsorted.reached i hi), ← mem_names_eraseDupsBy]
    constructor
    · intro hname
      obtain ⟨j, hj, hname⟩ := List.mem_map.1 hname
      -- no two interfaces in the list have the same name
      have hsame : j = i :=
        List.inj_on_of_nodup_map (nodup_names_interfacesOf s d) (hfront.subset hj) hi hname
      exact hsame ▸ hj
    · exact fun hown => List.mem_map_of_mem hown
  refine ⟨hsorted.reached, hnearest, ?_⟩
  intro hbare
  rw [← Declaration.interfacesAt_self hbare]
  exact hnearest

namespace Couriers

/-- An interface. -/
def named (name : String) : TypeExpr := .plain ⟨"App", name, .interfaceType⟩

/-- The tracking of something. -/
def track (t : TypeExpr) : TypeExpr := .apply ⟨"App", "ITrack", .interfaceType⟩ [t]

/-- Tracks what it carries, and says so twice; ships and works. -/
def courier : Declaration :=
  { Showcase.cls "App" "Courier" with
    params := ["T"]
    base := some (.plain ⟨"App", "Worker", .classType⟩)
    interfaces := [track (.param "T"), named "IShip", track (.param "T")] }

/-- A module in which the log is inherited on two ways, of two steps and of three. -/
def snapshot : Snapshot where
  name := "App"
  types :=
    [courier,
      { Showcase.cls "App" "Worker" with interfaces := [named "IAudit"] },
      { Showcase.blank "App" "IShip" .interfaceType with
        interfaces := [named "ILog", track (.plain ⟨"App", "Order", .classType⟩)] },
      { Showcase.blank "App" "IAudit" .interfaceType with
        interfaces := [named "ILog", named "IClock"] }]
  rules := []
  faultless := by decide

/-- How many declarations a chain from this one can still meet. -/
def rank (key : String) : Nat :=
  if key = "App.Courier<>" then 3
  else if key = "App.Worker" then 2
  else if key = "App.IShip" ∨ key = "App.IAudit" then 1
  else 0

end Couriers

/-- The courier's interfaces are listed from the nearest ones on. -/
theorem Couriers.nearest_first :
    snapshot.WellNamed ∧ snapshot.NonRecursive ∧ courier ∈ snapshot.types ∧
      (∀ i ∈ courier.interfaces, i.Every fun u => u.parameterIsBare = true) ∧
      snapshot.NearestFirst courier courier.interfaces := by
  have hs : snapshot.WellNamed := by decide
  have hr : snapshot.NonRecursive := Snapshot.nonRecursive_of_rank rank (by decide)
  have hd : courier ∈ snapshot.types := List.mem_cons_self
  have hbare : ∀ i ∈ courier.interfaces, i.Every fun u => u.parameterIsBare = true := by decide
  exact ⟨hs, hr, hd, hbare, (interfacesOf_nearest_first hs hr hd).2.2 hbare⟩

namespace Boxes

/-- The interface of a box for something. -/
def content (t : TypeExpr) : TypeExpr := .apply ⟨"App", "IBox", .interfaceType⟩ [t]

/-- The parameter of the box, written with an argument. -/
def burdened : TypeExpr :=
  .apply ⟨"", "T", .parameter⟩ [.plain ⟨"App", "Order", .classType⟩]

/-- A box for what it calls its parameter of an order. -/
def box : Declaration :=
  { Showcase.cls "App" "Box" with params := ["T"], interfaces := [content burdened] }

/-- A module with the box and its interface. -/
def snapshot : Snapshot where
  name := "App"
  types := [box, { Showcase.blank "App" "IBox" .interfaceType with params := ["T"] }]
  rules := []
  faultless := by decide

/-- How many declarations a chain from this one can still meet. -/
def rank (key : String) : Nat := if key = "App.Box<>" then 1 else 0

end Boxes

/-- A parameter that is written with an argument is listed without it, so the list does
not begin with what the box writes down. -/
theorem Boxes.not_all_nearest_first :
    ¬ ∀ (s : Snapshot) (d : Declaration), s.WellNamed → s.NonRecursive →
      (s.Every fun u => u.isParameter = true → u.head.ns = "") → d ∈ s.types →
        s.NearestFirst d d.interfaces := by
  intro h
  have hr : snapshot.NonRecursive := Snapshot.nonRecursive_of_rank rank (by decide)
  have hfound : snapshot.interfacesOf box = [content (.param "T")] :=
    interfacesOf_eq_iterate 2 rfl
  have hfront := (h snapshot box (by decide) hr (by decide) List.mem_cons_self).front
  rw [hfound] at hfront
  -- both lists have one member, but the names differ
  have hnames := hfront.map qualifiedName
  revert hnames
  decide

end InjectionPlan
