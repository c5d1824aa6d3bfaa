import InjectionPlan.Proofs.InterfaceWalk
import InjectionPlan.Showcase.Shop

/-! # Which inherited interfaces are found

    A type inherits an interface if some chain of steps leads to it.  Chains that
    expand a declaration twice do not count: with a declaration such as
    `Node<T> : Node<Wrap<T>>` there are infinitely many of them.

    The walk does not always find all interfaces that simple chains lead to.  It
    stops at a reference whose declaration has been expanded on the way, and by then
    it has marked the name as visited.  If another way leads to the same name later,
    it passes by, although there the reference could be expanded.

    - `found_of_unstopped`: if names can be read back, nothing is lost on a chain on
      which the walk has not stopped;
    - `mem_names_interfacesOf_iff`: what is found are the ends of simple chains that go
      round such references;
    - `mem_names_interfacesOf_iff_of_nonRecursive`: in a module without recursion the
      walk finds exactly what chains lead to.
-/

namespace InjectionPlan

open TypeExpr InterfaceWalk

variable {s : Snapshot} {d : Declaration} {t u : TypeExpr} {q : String}

/-! ### Stopped names -/

theorem InterfaceWalk.Meets.wellNamed {path : List String} (hs : s.WellNamed) (hd : d ∈ s.types)
    (h : Meets s d t path) : t.WellNamed := by
  obtain ⟨w, rest, hp, hw, -⟩ := h
  obtain ⟨ks, ts, hchain, -⟩ := hp.invariant.pending ⟨t, path⟩ (by simp [hw])
  exact hchain.wellNamed hs hd

/-- The guard stops the walk at the end of a chain of followed references on which the
declaration there was expanded before. -/
theorem exists_chain_of_stopped (ht : t ∈ (InterfaceWalk.run s d).stopped) :
    ∃ ks ts, Chain s d.self ks ts t ∧ Simple ts ∧ (∀ x ∈ ts, Follows s d x) ∧
      t.familyName ∈ ts.map familyName := by
  obtain ⟨path, ⟨w, rest, hp, hw, -⟩, hpath⟩ := (passes_run s d).invariant.stopped t ht
  obtain ⟨ks, ts, hchain, hts, hsimple, hfollows⟩ :=
    hp.invariant.pending ⟨t, path⟩ (by simp [hw])
  refine ⟨ks, ts, hchain, hsimple, hfollows, ?_⟩
  have hpath' : t.familyName ∈ (ts.map familyName).reverse := hts ▸ hpath
  exact List.mem_reverse.1 hpath'

/-- The names of the references at which the guard against recursion stops the walk. -/
def stoppedNames (s : Snapshot) (d : Declaration) : List String :=
  (InterfaceWalk.run s d).stopped.map qualifiedName

/-- A name that the guard has not stopped is followed, if a step starts from it. -/
theorem exists_follows_of_visited {k : StepKind} (hs : s.WellNamed) (hd : d ∈ s.types)
    (ht : t.WellNamed) (hstep : Step s k t u)
    (hvisited : t.qualifiedName ∈ (InterfaceWalk.run s d).visited)
    (hstopped : t.qualifiedName ∉ stoppedNames s d) :
    ∃ t', Follows s d t' ∧ t'.WellNamed ∧ t'.qualifiedName = t.qualifiedName := by
  -- the first meeting under the name decides: if the guard stops it, the name is stopped
  obtain ⟨t', path, hmeets, hname⟩ := (passes_run s d).invariant.visited _ hvisited
  have ht' := hmeets.wellNamed hs hd
  refine ⟨t', ⟨path, hmeets, ?_⟩, ht', hname⟩
  intro hpath
  obtain ⟨e, he, -, -⟩ := hstep.exists_declaration
  have hfind : s.find? t' = some e := by
    rw [Snapshot.find?_congr (familyName_eq_of_qualifiedName_eq ht' ht hname), he]
  exact hstopped (List.mem_map.2 ⟨t', hmeets.mem_stopped hfind hpath, hname⟩)

/-- Along a chain on which the guard has stopped no name, every name is visited, and
found if the last step leads to an interface. -/
theorem Chain.visited_of_unstopped {ks : List StepKind} {ts : List TypeExpr} (hs : s.WellNamed)
    (hd : d ∈ s.types) (h : Chain s t ks ts u) (ht : t.WellNamed)
    (hvisited : t.qualifiedName ∈ (InterfaceWalk.run s d).visited)
    (hstopped : ∀ x ∈ ts, x.qualifiedName ∉ stoppedNames s d) :
    u.qualifiedName ∈ (InterfaceWalk.run s d).visited ∧
      (ks.getLast? = some .toInterface →
        u.qualifiedName ∈ (s.interfacesOf d).map qualifiedName) := by
  induction h with
  | none => exact ⟨hvisited, fun h => by cases h⟩
  | @step t v u k ks ts hstep hrest ih =>
    obtain ⟨t', hfollows, ht', hname⟩ :=
      exists_follows_of_visited hs hd ht hstep hvisited (hstopped t List.mem_cons_self)
    -- the walk takes the step from the equally named reference
    obtain ⟨v', hstep', hname'⟩ := hstep.sameName ht ht' hname.symm
    have hv := hfollows.step hstep'
    rw [hname'] at hv
    have hu := ih (hstep.every shallow_partWellNamed hs ht) hv.1
      fun x hx => hstopped x (List.mem_cons_of_mem _ hx)
    refine ⟨hu.1, fun hlast => ?_⟩
    cases hrest with
    | none => exact hv.2 (by simpa using hlast)
    | step => exact hu.2 (by simpa using hlast)

/-- An interface is found if the guard has stopped no name on some chain to it. -/
theorem found_of_unstopped {ts : List TypeExpr} (hs : s.WellNamed) (hd : d ∈ s.types)
    (h : Inherits s d.self ts u) (hstopped : ∀ x ∈ ts, x.qualifiedName ∉ stoppedNames s d) :
    u.qualifiedName ∈ (s.interfacesOf d).map qualifiedName := by
  obtain ⟨ks, hchain, hlast⟩ := h
  exact (hchain.visited_of_unstopped hs hd (hs.self d hd) (self_visited s d) hstopped).2 hlast

/-- A followed reference is not stopped, nor is any other of its name. -/
theorem InterfaceWalk.Follows.not_mem_stoppedNames (h : Follows s d t) :
    t.qualifiedName ∉ stoppedNames s d := by
  intro hstopped
  obtain ⟨x, hx, hname⟩ := List.mem_map.1 hstopped
  obtain ⟨path, hmeets, hpath⟩ := (passes_run s d).invariant.stopped x hx
  obtain ⟨path', hmeets', hpath'⟩ := h
  -- both were the first to be met under the name, so they are one reference on one way
  obtain ⟨rfl, rfl⟩ := hmeets.unique hmeets' hname
  exact hpath' hpath

/-- The walk finds exactly what is inherited by simple chains on which the guard has
stopped no name. -/
theorem mem_names_interfacesOf_iff (hs : s.WellNamed) (hd : d ∈ s.types) :
    q ∈ (s.interfacesOf d).map qualifiedName ↔
      ∃ ts u, Inherits s d.self ts u ∧ Simple ts ∧
        (∀ t ∈ ts, t.qualifiedName ∉ stoppedNames s d) ∧ u.qualifiedName = q := by
  constructor
  · intro hq
    obtain ⟨ts, u, hinherits, hsimple, hfollows, hname⟩ := mem_names_found_iff.1 hq
    exact ⟨ts, u, hinherits, hsimple, fun t ht => (hfollows t ht).not_mem_stoppedNames, hname⟩
  · rintro ⟨ts, u, hinherits, -, hstopped, rfl⟩
    exact found_of_unstopped hs hd hinherits hstopped

/-! ### When all interfaces are found -/

/-- All interfaces that simple chains from the declaration lead to are found. -/
def Snapshot.InterfacesComplete (s : Snapshot) (d : Declaration) : Prop :=
  ∀ ts u, Inherits s d.self ts u → Simple ts →
    u.qualifiedName ∈ (s.interfacesOf d).map qualifiedName

/-- All interfaces are found exactly if each has, under its name, a simple chain that
the walk follows.  If names can be read back, these are the simple chains without a
name at which the guard has stopped the walk: such a name is followed nowhere. -/
theorem interfaces_complete_iff (s : Snapshot) (d : Declaration) :
    (s.InterfacesComplete d ↔
      ∀ ts u, Inherits s d.self ts u → Simple ts →
        ∃ ts' u', Inherits s d.self ts' u' ∧ Simple ts' ∧ (∀ t ∈ ts', Follows s d t) ∧
          u'.qualifiedName = u.qualifiedName) ∧
    (s.WellNamed → d ∈ s.types →
      (s.InterfacesComplete d ↔
        ∀ ts u, Inherits s d.self ts u → Simple ts →
          ∃ ts' u', Inherits s d.self ts' u' ∧ Simple ts' ∧
            (∀ t ∈ ts', t.qualifiedName ∉ stoppedNames s d) ∧
            u'.qualifiedName = u.qualifiedName)) ∧
    ∀ t, t.qualifiedName ∈ stoppedNames s d → ¬ Follows s d t := by
  refine ⟨?_, ?_, ?_⟩
  · constructor
    · intro h ts u hinherits hsimple
      exact mem_names_found_iff.1 (h ts u hinherits hsimple)
    · intro h ts u hinherits hsimple
      exact mem_names_found_iff.2 (h ts u hinherits hsimple)
  · intro hs hd
    constructor
    · intro h ts u hinherits hsimple
      exact (mem_names_interfacesOf_iff hs hd).1 (h ts u hinherits hsimple)
    · intro h ts u hinherits hsimple
      exact (mem_names_interfacesOf_iff hs hd).2 (h ts u hinherits hsimple)
  · intro t hstopped hfollows
    exact hfollows.not_mem_stoppedNames hstopped

namespace Detour

/-- The node over a type. -/
def node (t : TypeExpr) : TypeExpr := .apply ⟨"App", "INode", .interfaceType⟩ [t]

/-- The wrapped type. -/
def wrap (t : TypeExpr) : TypeExpr := .apply ⟨"App", "Wrap", .classType⟩ [t]

/-- An order. -/
def order : TypeExpr := .plain ⟨"App", "Order", .classType⟩

/-- The audit. -/
def audit : TypeExpr := .plain ⟨"App", "IAudit", .interfaceType⟩

/-- The service inherits the node of orders and, by way of its audit, the node of
wrapped orders. -/
def service : Declaration :=
  { Showcase.blank "App" "Service" .classType with interfaces := [node order, audit] }

/-- A module in which the order of the interfaces decides what is found.  The node of
orders leads to the node of wrapped orders, where the recursion is stopped; the audit
leads there too, and on this way the node could be expanded. -/
def snapshot : Snapshot where
  name := "App"
  types :=
    [service,
      { Showcase.blank "App" "INode" .interfaceType with
        params := ["T"]
        interfaces := [node (wrap (.param "T"))] },
      { Showcase.blank "App" "IAudit" .interfaceType with interfaces := [node (wrap order)] }]
  rules := []
  faultless := by decide

end Detour

/-- The equivalences at a module with a detour. -/
theorem Detour.complete_iff_unstopped :
    snapshot.WellNamed ∧ service ∈ snapshot.types ∧
      (snapshot.InterfacesComplete service ↔
        ∀ ts u, Inherits snapshot service.self ts u → Simple ts →
          ∃ ts' u', Inherits snapshot service.self ts' u' ∧ Simple ts' ∧
            (∀ t ∈ ts', t.qualifiedName ∉ stoppedNames snapshot service) ∧
            u'.qualifiedName = u.qualifiedName) := by
  have hs : snapshot.WellNamed := by decide
  have hd : service ∈ snapshot.types := List.mem_cons_self
  exact ⟨hs, hd, (interfaces_complete_iff snapshot service).2.1 hs hd⟩

/-- By its audit the service inherits the node of doubly wrapped orders, and the walk
does not find it. -/
theorem Detour.not_all_interfacesComplete :
    ¬ ∀ (s : Snapshot) (d : Declaration), d ∈ s.types → s.InterfacesComplete d := by
  intro h
  have toAudit : Step snapshot .toInterface service.self audit :=
    .toInterface rfl (List.mem_of_getElem? (i := 1) rfl)
  have toWrapped : Step snapshot .toInterface audit (node (wrap order)) :=
    .toInterface rfl List.mem_cons_self
  have toDoublyWrapped :
      Step snapshot .toInterface (node (wrap order)) (node (wrap (wrap order))) :=
    .toInterface rfl List.mem_cons_self
  have inherits : Inherits snapshot service.self [service.self, audit, node (wrap order)]
      (node (wrap (wrap order))) :=
    ⟨_, .step toAudit (.step toWrapped (.step toDoublyWrapped (.none _))), rfl⟩
  have simple : Simple [service.self, audit, node (wrap order)] := by
    rw [Simple]
    decide
  -- the walk is over after five visits
  have lost : (node (wrap (wrap order))).qualifiedName ∉
      (snapshot.interfacesOf service).map qualifiedName := by
    rw [Snapshot.interfacesOf, run, finish_eq_iterate 5 rfl]
    decide
  exact lost (h snapshot service List.mem_cons_self _ _ inherits simple)

/-! ### Modules without recursion -/

/-- Where no chain meets a declaration twice, the guard never stops the walk. -/
theorem stopped_eq_nil (hr : s.NonRecursive) (hd : d ∈ s.types) :
    (InterfaceWalk.run s d).stopped = [] := by
  apply List.eq_nil_iff_forall_not_mem.2
  intro t ht
  obtain ⟨ks, ts, hchain, -, -, htwice⟩ := exists_chain_of_stopped ht
  exact (simple_snoc_iff.1 (hr d hd ks ts t hchain)).2 htwice

/-- In a module without recursion the walk finds exactly what chains lead to. -/
theorem mem_names_interfacesOf_iff_of_nonRecursive (hs : s.WellNamed) (hr : s.NonRecursive)
    (hd : d ∈ s.types) :
    q ∈ (s.interfacesOf d).map qualifiedName ↔
      ∃ ts u, Inherits s d.self ts u ∧ u.qualifiedName = q := by
  constructor
  · intro hq
    obtain ⟨ts, u, hinherits, -, -, hname⟩ := (mem_names_interfacesOf_iff hs hd).1 hq
    exact ⟨ts, u, hinherits, hname⟩
  · rintro ⟨ts, u, hinherits, rfl⟩
    apply found_of_unstopped hs hd hinherits
    intro t _ ht
    rw [stoppedNames, stopped_eq_nil hr hd] at ht
    cases ht

end InjectionPlan
