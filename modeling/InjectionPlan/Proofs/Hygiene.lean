import InjectionPlan.Proofs.OpenRegistrations

/-! # Hygiene of the walks

    What a type inherits is written by other declarations, each over its own parameters,
    and all of them may be called `T`.  In a scoped module in which references agree in
    arity with their declarations, no foreign parameter is left over: a reference that a
    walk returns has no parameters but the type's own (`Chain.scopedIn`), so a type without
    parameters inherits closed references only.

    If arities do not agree, parameters do leak.  A plain name that is written with
    brackets, such as `ISource<>`, finds the declaration of the generic source and binds
    none of its parameters; in `Leak.snapshot` one of these reaches a bulk registration.
-/

namespace InjectionPlan

open TypeExpr

variable {s : Snapshot} {d : Declaration} {t : TypeExpr} {ks : List StepKind}
  {ts : List TypeExpr}

/-! ### Closed references -/

/-- No part of the reference is a type parameter or has its arguments erased. -/
def TypeExpr.Closed (t : TypeExpr) : Prop :=
  t.Every fun u => u.isParameter = false ∧ u.isErased = false

instance : DecidablePred TypeExpr.Closed := fun t =>
  inferInstanceAs (Decidable (t.Every fun u => u.isParameter = false ∧ u.isErased = false))

/-- A reference over no parameters is closed. -/
theorem TypeExpr.closed_of_scopedIn_nil (ht : t.Every (ScopedIn [])) : t.Closed := by
  refine ht.imp ?_
  rintro u ⟨herased, hparam⟩
  refine ⟨?_, herased⟩
  rw [← Bool.not_eq_true]
  intro hpar
  exact List.not_mem_nil (hparam hpar)

/-! ### Parameters along a chain -/

/-- In a scoped module no reference has its arguments erased. -/
theorem Snapshot.Scoped.every_isErased (hs : s.Scoped) : s.Every fun u => u.isErased = false where
  self d _ := d.every_self d.isErased_self fun _ _ => rfl
  interfaces d hd i hi := (hs d hd i (List.mem_append_left _ hi)).imp fun _ hu => hu.1
  base d hd b hb := (hs d hd b (List.mem_append_right _ (by simp [hb]))).imp fun _ hu => hu.1

/-- The declared type is written over its own parameters. -/
theorem Declaration.every_self_scopedIn (d : Declaration) : d.self.Every (ScopedIn d.params) := by
  refine d.every_self ⟨d.isErased_self, ?_⟩ fun n hn => ⟨rfl, fun _ => hn⟩
  intro hpar
  rw [d.isParameter_self] at hpar
  cases hpar

/-- What chains from a type lead to is written over the parameters of the type. -/
theorem Chain.scopedIn (hs : s.Scoped) (ha : s.AritiesAgree) (hd : d ∈ s.types)
    (h : Chain s d.self ks ts t) : t.Every (ScopedIn d.params) := by
  -- parameters come from the arguments, at each step anew; erased arguments come from nowhere
  have hparams : t.Every fun u => u.isParameter = true → u.name ∈ d.params := by
    refine h.every_of_scoped ?_ hs (s.every_saturates hs ha) ((s.every_saturates hs ha).self d hd)
      (d.every_self_scopedIn.imp fun _ hu => hu.2)
    intro u hu hpar
    rw [hu] at hpar
    cases hpar
  have hwritten : t.Every fun u => u.isErased = false := by
    have shallow : Shallow fun u => u.isErased = false := fun _ _ _ _ _ => rfl
    exact h.every shallow hs.every_isErased (hs.every_isErased.self d hd)
  exact hwritten.and hparams

/-- Both walks follow chains. -/
theorem Snapshot.exists_chain_of_mem_inherited (hd : d ∈ s.types)
    (ht : t ∈ s.interfacesOf d ++ s.basesOf d) : ∃ ks ts, Chain s d.self ks ts t := by
  rcases List.mem_append.1 ht with hi | hb
  · obtain ⟨ts, ks, hchain, -⟩ := exists_inherits_of_mem_interfacesOf hi
    exact ⟨ks, ts, hchain⟩
  · obtain ⟨ks, ts, hchain, -⟩ := exists_chain_of_mem_basesOf hd hb
    exact ⟨ks, ts, hchain⟩

/-! ### Registrations of types without parameters -/

/-- The registration shows the names of two closed references, those of the type and of
what it has matched. -/
structure Declaration.ServesClosed (d : Declaration) (t : TypeExpr) (reg : Registration) :
    Prop where
  /-- The match is closed. -/
  closed_match : t.Closed
  /-- The type is closed. -/
  closed_self : d.self.Closed
  /-- The service is the match, seen from the type. -/
  service : reg.service = some (t.displayName d.ns)
  /-- The implementation is the type. -/
  implementation : reg.implementation = d.self.qualifiedName

/-- In a scoped module in which references agree in arity with their declarations, all that
a type inherits is written over the type's own parameters.  A type without parameters
inherits closed references only, and bulk rules register it for closed references only. -/
theorem inherited_hygienic (hs : s.Scoped) (ha : s.AritiesAgree) :
    (∀ d ∈ s.types, ∀ t ∈ s.interfacesOf d ++ s.basesOf d, t.Every (ScopedIn d.params)) ∧
    (∀ d ∈ s.types, d.isGeneric = false →
      ∀ t ∈ s.interfacesOf d ++ s.basesOf d, t.Closed) ∧
    ∀ h m,
      (∀ reg, reg ∈ (Expansion.ofMarker h s m).registrations ↔ ∃ d t, s.Registers h m d t reg) ∧
      ∀ d t reg, s.Registers h m d t reg → d.isGeneric = false → d.ServesClosed t reg := by
  have hscoped (d : Declaration) (hd : d ∈ s.types) :
      ∀ t ∈ s.interfacesOf d ++ s.basesOf d, t.Every (ScopedIn d.params) := by
    intro t ht
    obtain ⟨ks, ts, hchain⟩ := Snapshot.exists_chain_of_mem_inherited hd ht
    exact hchain.scopedIn hs ha hd
  refine ⟨hscoped, ?_, ?_⟩
  · intro d hd hg t ht
    have hover := hscoped d hd t ht
    rw [Declaration.isGeneric_eq_false_iff.1 hg] at hover
    exact closed_of_scopedIn_nil hover
  · intro h m
    refine ⟨fun reg => Snapshot.mem_registrations_iff_registers, ?_⟩
    rintro d t reg ⟨r, -, hcandidate, hmatch, hreg⟩ hg
    obtain ⟨hd, -⟩ := Rule.key_ne_of_mem_candidates hcandidate
    obtain ⟨-, ks, ts, hchain, -⟩ := Rule.exists_chain_of_mem_matchesOf hd hmatch
    have hnone : d.params = [] := Declaration.isGeneric_eq_false_iff.1 hg
    rw [Rule.registration?_of_closed hg] at hreg
    obtain rfl := Option.some.inj hreg
    exact {
      closed_match := closed_of_scopedIn_nil (hnone ▸ hchain.scopedIn hs ha hd)
      closed_self := closed_of_scopedIn_nil (hnone ▸ d.every_self_scopedIn)
      service := rfl
      implementation := rfl }

namespace Queues

/-- The source of a type. -/
def source (t : TypeExpr) : TypeExpr := .apply ⟨"App", "ISource", .interfaceType⟩ [t]

/-- The list of a type. -/
def list (t : TypeExpr) : TypeExpr := .apply ⟨"System", "List", .classType⟩ [t]

/-- An order. -/
def order : TypeExpr := .plain ⟨"App", "Order", .classType⟩

/-- The queue of a type is a buffer of lists of it. -/
def queue : Declaration :=
  { Showcase.cls "App" "Queue" with
    params := ["T"]
    base := some (.apply ⟨"App", "Buffer", .classType⟩ [list (.param "T")]) }

/-- A queue of orders. -/
def orderQueue : Declaration :=
  { Showcase.cls "App" "OrderQueue" with
    base := some (.apply ⟨"App", "Queue", .classType⟩ [order]) }

/-- A module in which all generic declarations name their parameter alike. -/
def snapshot : Snapshot where
  name := "App"
  types :=
    [orderQueue, queue,
      { Showcase.cls "App" "Buffer" with
        params := ["T"]
        interfaces := [source (.param "T")]
        declaredAbstract := true },
      { Showcase.blank "App" "ISource" .interfaceType with params := ["T"] }]
  rules := []
  faultless := by decide

/-- Register all sources. -/
def marker : Marker := .bulkByPosition (.erase ⟨"App", "ISource", .interfaceType⟩ 1)

end Queues

/-- The queue of orders is registered for a closed source, while what the queue inherits
is written over its own parameter. -/
theorem Queues.inherited_scoped :
    snapshot.Scoped ∧ snapshot.AritiesAgree ∧
      snapshot.interfacesOf orderQueue = [source (list order)] ∧ (source (list order)).Closed ∧
      (∀ t ∈ snapshot.interfacesOf queue ++ snapshot.basesOf queue, t.Every (ScopedIn ["T"])) ∧
      orderQueue.ServesClosed (source (list order))
        ⟨some "App.ISource<System.List<App.Order>>", "App.OrderQueue", .transient, none⟩ := by
  have hs : snapshot.Scoped := by decide
  have ha : snapshot.AritiesAgree := Snapshot.aritiesAgree_of_names (by decide)
  obtain ⟨hscoped, hclosed, hrules⟩ := inherited_hygienic hs ha
  have hfound : snapshot.interfacesOf orderQueue = [source (list order)] :=
    InterfaceWalk.interfacesOf_eq_iterate 4 rfl
  have hmem : source (list order) ∈ snapshot.interfacesOf orderQueue := by
    rw [hfound]
    exact List.mem_cons_self
  have hregisters : snapshot.Registers .microsoft marker orderQueue (source (list order))
      ⟨some "App.ISource<System.List<App.Order>>", "App.OrderQueue", .transient, none⟩ := by
    exact Snapshot.registers_of_mem_interfacesOf rfl rfl List.mem_cons_self hmem (by decide) rfl
  exact ⟨hs, ha, hfound,
    hclosed orderQueue List.mem_cons_self rfl _ (List.mem_append_left _ hmem),
    hscoped queue (List.mem_of_getElem? (i := 1) rfl),
    (hrules .microsoft marker).2 _ _ _ hregisters rfl⟩

namespace Leak

/-- Inherits a plain name that is written like the erased source. -/
def pump : Declaration :=
  { Showcase.cls "App" "Pump" with interfaces := [.plain ⟨"App", "ISource<>", .interfaceType⟩] }

/-- The sink of the source's parameter. -/
def sink : TypeExpr := .apply ⟨"App", "ISink", .interfaceType⟩ [.param "T"]

/-- A module in which the plain name finds the generic source. -/
def snapshot : Snapshot where
  name := "App"
  types :=
    [pump,
      { Showcase.blank "App" "ISource" .interfaceType with
        params := ["T"]
        interfaces := [sink] },
      { Showcase.blank "App" "ISink" .interfaceType with params := ["T"] }]
  rules := []
  faultless := by decide

end Leak

/-- The pump has no parameters, but it inherits the sink of the source's. -/
theorem Leak.not_all_inherited_hygienic :
    ¬ ∀ s : Snapshot, s.Scoped → ∀ d ∈ s.types, ∀ t ∈ s.interfacesOf d ++ s.basesOf d,
      t.Every fun u => u.isParameter = true → u.name ∈ d.params := by
  intro hygienic
  have hfound : sink ∈ snapshot.interfacesOf pump := by
    rw [InterfaceWalk.interfacesOf_eq_iterate 3 rfl]
    exact List.mem_of_getElem? (i := 1) rfl
  have hsink := hygienic snapshot (by decide) pump List.mem_cons_self sink
    (List.mem_append_left _ hfound)
  have hparam : (param "T").Every fun u => u.isParameter = true → u.name ∈ pump.params :=
    hsink.args _ List.mem_cons_self
  exact List.not_mem_nil (hparam.self rfl)

end InjectionPlan
