import InjectionPlan.Proofs.Faultless
import InjectionPlan.Proofs.InterfaceWalk
import InjectionPlan.Showcase.Shop

/-! # Walks in recursive modules

    Types may inherit from each other in a circle, and a generic declaration may inherit
    ever larger forms of itself: `Node<T> : Node<Wrap<T>>` leads to infinitely many
    references.  The names that the walk has met do not bound it there.  What bounds it
    are the paths: no declaration is expanded twice on the way to a reference.

    - `interfacesOf_sound`: what the walk finds is inherited on a chain that expands no
      declaration twice;
    - `Passes.path`: a path is as long as the module at most;
    - `pending_iterate`: each visit makes the pending ones lighter, so the walk is over
      after as many visits as the first one weighs;
    - `walk_ends`: all this for the walk from a declaration, with the bound.
-/

namespace InjectionPlan

open TypeExpr InterfaceWalk

variable {s : Snapshot} {d : Declaration} {w : InterfaceWalk} {v : Visit}

/-! ### What is found -/

/-- The walk expands the reference that it starts from. -/
theorem InterfaceWalk.follows_self (s : Snapshot) (d : Declaration) : Follows s d d.self := by
  refine ⟨[], ⟨start d, [], .start, rfl, ?_⟩, ?_⟩
  · simp [start]
  · simp

/-- Whatever recursion there is in the module, each interface that is found is the end of
a chain of steps that expands no declaration twice, and no two of them have the same
qualified name.  The interfaces that the type itself writes down are among them. -/
theorem interfacesOf_sound (s : Snapshot) (d : Declaration) :
    (∀ i ∈ s.interfacesOf d, ∃ ts, Inherits s d.self ts i ∧ Simple ts) ∧
    ((s.interfacesOf d).map qualifiedName).Nodup ∧
    (d ∈ s.types →
      ∀ i ∈ d.interfacesAt d.self, i.qualifiedName ∈ (s.interfacesOf d).map qualifiedName) := by
  have hinvariant := (passes_run s d).invariant
  refine ⟨?_, hinvariant.names, ?_⟩
  · intro i hi
    obtain ⟨ts, hinherits, hsimple, -⟩ := hinvariant.found i hi
    exact ⟨ts, hinherits, hsimple⟩
  · intro hd i hi
    have hstep : Step s .toInterface d.self i := .toInterface (Snapshot.find?_self hd) hi
    exact ((follows_self s d).step hstep).2 rfl

namespace Rally

/-- A ball that is played once more. -/
def ball (t : TypeExpr) : TypeExpr := .apply ⟨"App", "Ball", .classType⟩ [t]

/-- One side of the net. -/
def ping (t : TypeExpr) : TypeExpr := .apply ⟨"App", "IPing", .interfaceType⟩ [t]

/-- The other side. -/
def pong (t : TypeExpr) : TypeExpr := .apply ⟨"App", "IPong", .interfaceType⟩ [t]

/-- The one who serves. -/
def player : Declaration :=
  { Showcase.cls "App" "Player" with interfaces := [ping (.plain ⟨"App", "Player", .classType⟩)] }

/-- A module in which each side inherits the other one with a larger argument. -/
def snapshot : Snapshot where
  name := "App"
  types :=
    [player,
      { Showcase.blank "App" "IPing" .interfaceType with
        params := ["T"]
        interfaces := [pong (ball (.param "T"))] },
      { Showcase.blank "App" "IPong" .interfaceType with
        params := ["T"]
        interfaces := [ping (ball (.param "T"))] }]
  rules := []
  faultless := by decide

end Rally

/-- The ball comes back to the first side once, and there the walk stops. -/
theorem Rally.inherits_return :
    player ∈ snapshot.types ∧
    ping (ball (ball player.self)) ∈ snapshot.interfacesOf player ∧
    (∃ ts, Inherits snapshot player.self ts (ping (ball (ball player.self))) ∧ Simple ts) ∧
    ping player.self ∈ player.interfacesAt player.self ∧
    (ping player.self).qualifiedName ∈ (snapshot.interfacesOf player).map qualifiedName := by
  obtain ⟨hinherits, -, hown⟩ := interfacesOf_sound snapshot player
  have hd : player ∈ snapshot.types := List.mem_cons_self
  have hreturn : ping (ball (ball player.self)) ∈ snapshot.interfacesOf player := by
    rw [interfacesOf_eq_iterate 4 rfl]
    exact List.mem_of_getElem? (i := 2) rfl
  have hserve : ping player.self ∈ player.interfacesAt player.self := List.mem_cons_self
  exact ⟨hd, hreturn, hinherits _ hreturn, hserve, hown hd _ hserve⟩

namespace InterfaceWalk

/-! ### Paths -/

/-- The walk passes through all the states that visits lead to. -/
theorem passes_iterate (s : Snapshot) (d : Declaration) (n : Nat) :
    Passes s d ((next s)^[n] (start d)) := by
  induction n with
  | zero => exact .start
  | succ n ih =>
    rw [Function.iterate_succ_apply']
    by_cases hw : ((next s)^[n] (start d)).pending = []
    · rw [next_eq_self hw]
      exact ih
    · exact ih.next hw

/-- A pending path names declared types, none of them twice. -/
theorem Passes.path (h : Passes s d w) (hv : v ∈ w.pending) :
    v.path.Nodup ∧ ∀ k ∈ v.path, k ∈ s.keys := by
  -- the path lists the declarations that the chain to the reference has expanded
  obtain ⟨ks, ts, hchain, hpath, hsimple, -⟩ := h.invariant.pending v hv
  rw [hpath]
  constructor
  · exact List.nodup_reverse.2 hsimple
  · intro k hk
    obtain ⟨t, ht, rfl⟩ := List.mem_map.1 (List.mem_reverse.1 hk)
    exact hchain.familyName_mem_keys t ht

/-! ### The number of visits -/

/-- The walk is over when there have been as many visits as the pending ones weigh. -/
theorem pending_iterate {n : Nat} (h : load s w.pending ≤ n) :
    ((next s)^[n] w).pending = [] := by
  induction n generalizing w with
  | zero =>
    -- even the lightest visit weighs something
    cases hw : w.pending with
    | nil => exact hw
    | cons v rest =>
      have hpos := weight_pos s v.path
      simp only [hw, load, total] at h
      omega
  | succ n ih =>
    rw [Function.iterate_succ_apply]
    apply ih
    -- a visit makes the load smaller, and without one nothing changes
    by_cases hw : w.pending = []
    · rw [next_eq_self hw, hw]
      exact Nat.zero_le n
    · have hlt := load_next_lt (s := s) hw
      omega

/-- The number of visits that no walk in the module exceeds. -/
def visitLimit (s : Snapshot) : Nat := Nat.pow (clauses s + 1) s.types.length

theorem load_start (s : Snapshot) (d : Declaration) :
    load s (start d).pending = visitLimit s := by
  simp [load, total, start, weight, Snapshot.unused, Snapshot.keys, visitLimit]

/-- The first visits of a walk, in the order in which they are made. -/
def visits (s : Snapshot) : Nat → InterfaceWalk → List Visit
  | 0, _ => []
  | n + 1, w => w.pending.head?.toList ++ visits s n (next s w)

theorem length_visits_le (s : Snapshot) (n : Nat) (w : InterfaceWalk) :
    (visits s n w).length ≤ n := by
  induction n generalizing w with
  | zero => simp [visits]
  | succ n ih =>
    have hrest := ih (next s w)
    have hfirst : w.pending.head?.toList.length ≤ 1 := by
      cases w.pending <;> simp
    rw [visits, List.length_append]
    omega

/-- If the walk is over after `n` visits, each pending visit is one of them. -/
theorem mem_visits {n : Nat} (hover : ((next s)^[n] w).pending = []) (hv : v ∈ w.pending) :
    v ∈ visits s n w := by
  induction n generalizing w with
  | zero =>
    have hnone : w.pending = [] := hover
    rw [hnone] at hv
    cases hv
  | succ n ih =>
    rw [visits]
    cases hw : w.pending with
    | nil =>
      rw [hw] at hv
      cases hv
    | cons x rest =>
      rw [hw] at hv
      rcases List.mem_cons.1 hv with rfl | hv
      · simp
      · exact List.mem_append_right _ (ih hover (mem_pending_next hw hv))

/-- If the walk is over after `n` visits, these are all that are ever pending. -/
theorem mem_visits_of_iterate {n k : Nat} (hover : ((next s)^[n] w).pending = [])
    (hv : v ∈ ((next s)^[k] w).pending) : v ∈ visits s n w := by
  induction k generalizing w n with
  | zero => exact mem_visits hover hv
  | succ k ih =>
    cases n with
    | zero =>
      -- nothing is pending at the beginning, so nothing ever is
      have hw : w.pending = [] := hover
      rw [Function.iterate_fixed (next_eq_self hw), hw] at hv
      cases hv
    | succ n => exact List.mem_append_right _ (ih hover hv)

end InterfaceWalk

/-- The walk from a type comes to an end in every module.  After a number of visits that
only the module determines, nothing is pending, and this is the state in which the walk
stops.  At any time each pending path names declared types, none of them twice, so it is
not longer than the module.  No more visits than the limit says are ever pending. -/
theorem walk_ends (s : Snapshot) (d : Declaration) :
    ((next s)^[visitLimit s] (start d)).pending = [] ∧
    InterfaceWalk.run s d = (next s)^[visitLimit s] (start d) ∧
    (∀ n, ∀ v ∈ ((next s)^[n] (start d)).pending,
      v.path.Nodup ∧ (∀ k ∈ v.path, k ∈ s.keys) ∧ v.path.length ≤ s.types.length) ∧
    ∃ queued : List Visit, queued.length ≤ visitLimit s ∧
      ∀ n, ∀ v ∈ ((next s)^[n] (start d)).pending, v ∈ queued := by
  have hover : ((next s)^[visitLimit s] (start d)).pending = [] :=
    pending_iterate (Nat.le_of_eq (load_start s d))
  refine ⟨hover, finish_eq_iterate _ hover, ?_, ?_⟩
  · intro n v hv
    obtain ⟨hnodup, hkeys⟩ := (passes_iterate s d n).path hv
    exact ⟨hnodup, hkeys, Snapshot.length_le_of_keys hnodup hkeys⟩
  · -- the visits up to the limit are all there are
    refine ⟨visits s (visitLimit s) (start d), length_visits_le s _ _, ?_⟩
    intro n v hv
    exact mem_visits_of_iterate hover hv

/-- After three visits the return is pending, and all three types lie on its path. -/
theorem Rally.path_of_return :
    ⟨ping (ball (ball player.self)), ["App.IPong<>", "App.IPing<>", "App.Player"]⟩ ∈
      ((next snapshot)^[3] (start player)).pending ∧
    (["App.IPong<>", "App.IPing<>", "App.Player"].Nodup ∧
      (∀ k ∈ ["App.IPong<>", "App.IPing<>", "App.Player"], k ∈ snapshot.keys) ∧
      ["App.IPong<>", "App.IPing<>", "App.Player"].length ≤ snapshot.types.length) ∧
    visitLimit snapshot = 64 ∧ ((next snapshot)^[64] (start player)).pending = [] := by
  obtain ⟨hover, -, hpath, -⟩ := walk_ends snapshot player
  have hpending : ⟨ping (ball (ball player.self)), ["App.IPong<>", "App.IPing<>", "App.Player"]⟩ ∈
      ((next snapshot)^[3] (start player)).pending := List.mem_of_getElem? (i := 0) rfl
  exact ⟨hpending, hpath 3 _ hpending, rfl, hover⟩

end InjectionPlan
