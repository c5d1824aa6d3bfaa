import InjectionPlan.Proofs.BaseWalk
import InjectionPlan.Proofs.InheritedInterfaces
import InjectionPlan.Proofs.RecursiveWalks

/-! # The interfaces of the bases

    A type inherits the interfaces of all its bases.  The base walk finds the bases, and
    the interface walk is to find their interfaces on its own.

    It does so if it meets the bases nowhere but on the line of bases.  This is the case if
    interfaces and other types are kept apart and no interface has a declared base: then
    the way to a type that is no interface leads over bases only (`Chain.descends`), and two
    such ways are one (`Descends.linear`).  So the walk is not stopped at a base
    (`Descends.not_mem_stoppedNames`), however recursive the bases are.

    An interface that has a base leads to the bases from the side.  In `Ledgers.crossed` the
    recursion is stopped on that way, and on the line of bases the reference is then passed
    by.
-/

namespace InjectionPlan

open TypeExpr InterfaceWalk

variable {s : Snapshot} {d e f : Declaration} {t u b : TypeExpr} {k : StepKind}
  {ks : List StepKind} {ts us : List TypeExpr}

/-! ### Kinds -/

/-- The reference is no type parameter, and if it is declared, then as an interface or as
something else, as stated. -/
def Snapshot.NamesKind (s : Snapshot) (isInterface : Bool) (t : TypeExpr) : Prop :=
  t.isParameter = false ∧ ∀ e ∈ s.find? t, e.isInterface = isInterface

instance (s : Snapshot) (isInterface : Bool) : DecidablePred (s.NamesKind isInterface) := fun t =>
  inferInstanceAs (Decidable (t.isParameter = false ∧ ∀ e ∈ s.find? t, e.isInterface = isInterface))

/-- Declared types stand in lists of interfaces if they are interfaces, and are bases if
they are not. -/
def Snapshot.KindsApart (s : Snapshot) : Prop :=
  ∀ d ∈ s.types, (∀ i ∈ d.interfaces, s.NamesKind true i) ∧ ∀ b ∈ d.base, s.NamesKind false b

instance : DecidablePred Snapshot.KindsApart := fun s =>
  inferInstanceAs (Decidable (∀ d ∈ s.types,
    (∀ i ∈ d.interfaces, s.NamesKind true i) ∧ ∀ b ∈ d.base, s.NamesKind false b))

/-- No interface but the type itself has a declared base. -/
def Snapshot.BaselessInterfaces (s : Snapshot) (d : Declaration) : Prop :=
  ∀ e ∈ s.types, e.isInterface = true → e.key ≠ d.key → ∀ b ∈ e.base, s.find? b = none

instance (s : Snapshot) : DecidablePred s.BaselessInterfaces := fun d =>
  decidable_of_iff
    (∀ e ∈ s.types, e.isInterface = true → e.key ≠ d.key → ∀ b ∈ e.base, (s.find? b).isNone = true)
    (by simp only [Option.isNone_iff_eq_none, Snapshot.BaselessInterfaces])

/-- Substitution does not change what is declared under the name. -/
theorem Snapshot.NamesKind.find?_substitute {isInterface : Bool} (h : s.NamesKind isInterface t)
    (σ : Binding) : s.find? (t.substitute σ) = s.find? t :=
  find?_congr (familyName_substitute h.1)

/-- A step to an interface leads to interfaces, a step to the base to other types. -/
theorem Step.kind (hk : s.KindsApart) (h : Step s k t u) (he : s.find? u = some e) :
    e.isInterface = true ↔ k = .toInterface := by
  cases h with
  | @toInterface _ _ d hd hi =>
    obtain ⟨x, hx, rfl⟩ := List.mem_map.1 hi
    have hnames := (hk d (Snapshot.mem_of_find? hd)).1 x hx
    rw [hnames.find?_substitute] at he
    simp [hnames.2 e he]
  | @toBase _ _ d hd hb =>
    obtain ⟨x, hx, rfl⟩ := Option.map_eq_some_iff.1 hb
    have hnames := (hk d (Snapshot.mem_of_find? hd)).2 x hx
    rw [hnames.find?_substitute] at he
    simp [hnames.2 e he]

/-- An interface other than the type itself has no base that is declared. -/
theorem Snapshot.BaselessInterfaces.not_step (hk : s.KindsApart) (h : s.BaselessInterfaces d)
    (he : s.find? t = some e) (hi : e.isInterface = true) (hne : t.familyName ≠ d.key)
    (hf : s.find? u = some f) : ¬ Step s .toBase t u := by
  intro hstep
  obtain ⟨e', he', hbase⟩ := step_toBase_iff.1 hstep
  obtain rfl : e = e' := Option.some.inj (he.symm.trans he')
  obtain ⟨x, hx, rfl⟩ := Option.map_eq_some_iff.1 hbase
  have hmem := mem_of_find? he
  have hnone : s.find? x = none := h e hmem hi (key_of_find? he ▸ hne) x hx
  rw [((hk e hmem).2 x hx).find?_substitute, hnone] at hf
  cases hf

/-! ### Ways to types that are no interfaces -/

/-- All that stands in a line of bases is itself reached in this line. -/
theorem Descends.exists_prefix (h : Descends s t ts b) (hu : u ∈ ts ++ [b]) :
    ∃ us, Descends s t us u ∧ us ++ [u] <+: ts ++ [b] := by
  induction ts generalizing t with
  | nil =>
    obtain rfl := List.mem_singleton.1 hu
    exact ⟨[], h, List.prefix_refl _⟩
  | cons x ts ih =>
    obtain ⟨rfl, c, hstep, hrest⟩ := descends_cons_iff.1 h
    rcases List.mem_cons.1 hu with rfl | hu
    · exact ⟨[], descends_nil_iff.2 rfl, List.prefix_append [u] (ts ++ [b])⟩
    · obtain ⟨us, hline, hpre⟩ := ih hrest hu
      exact ⟨x :: us, descends_cons_iff.2 ⟨rfl, c, hstep, hline⟩,
        (List.prefix_cons_inj x).2 hpre⟩

/-- A line of bases to a declared type begins at a declared type. -/
theorem Descends.exists_declaration (h : Descends s t ts b) (hf : s.find? b = some f) :
    ∃ e, s.find? t = some e := by
  cases ts with
  | nil =>
    obtain rfl := descends_nil_iff.1 h
    exact ⟨f, hf⟩
  | cons x ts =>
    obtain ⟨rfl, -⟩ := descends_cons_iff.1 h
    obtain ⟨ks, hchain, -⟩ := h
    exact hchain.exists_declaration x List.mem_cons_self

/-- No base is an interface. -/
theorem Descends.isInterface_eq_false (hk : s.KindsApart) (h : Descends s t ts b) (hts : ts ≠ [])
    (hf : s.find? b = some f) : f.isInterface = false := by
  induction ts generalizing t with
  | nil => exact absurd rfl hts
  | cons x ts ih =>
    obtain ⟨rfl, c, hstep, hrest⟩ := descends_cons_iff.1 h
    cases ts with
    | nil =>
      obtain rfl := descends_nil_iff.1 hrest
      have hkind := hstep.kind hk hf
      simpa using hkind
    | cons y ts => exact ih hrest (by simp)

/-- A way that comes back to no form of the type leads over bases only, if it leads to a
type that is no interface. -/
theorem Chain.descends (hk : s.KindsApart) (hbl : s.BaselessInterfaces d)
    (h : Chain s t ks ts u) (hfresh : ∀ x ∈ ts.tail, x.familyName ≠ d.key)
    (hf : s.find? u = some f) (hi : f.isInterface = false) : Descends s t ts u := by
  -- from the front: behind the first step the way leads over bases only
  induction h with
  | none t => exact descends_nil_iff.2 rfl
  | @step t v u k ks ts hstep hrest ih =>
    have hline : Descends s v ts u := ih (fun x hx => hfresh x (List.mem_of_mem_tail hx)) hf
    obtain ⟨e, he⟩ := hline.exists_declaration hf
    cases k with
    | toBase => exact descends_cons_iff.2 ⟨rfl, v, hstep, hline⟩
    | toInterface =>
      -- the way would go on from an interface to its base
      have hinterface : e.isInterface = true := (hstep.kind hk he).2 rfl
      cases ts with
      | nil =>
        obtain rfl := descends_nil_iff.1 hline
        rw [he] at hf
        cases hf
        rw [hi] at hinterface
        cases hinterface
      | cons x ts =>
        obtain ⟨rfl, c, hbase, hrest'⟩ := descends_cons_iff.1 hline
        obtain ⟨e', he'⟩ := hrest'.exists_declaration hf
        exact absurd hbase (hbl.not_step hk he hinterface (hfresh x List.mem_cons_self) he')

/-! ### The walk along the bases -/

/-- A line of bases without repetition is walked to its end: the walk is not stopped at
any of its names. -/
theorem Descends.not_mem_stoppedNames (hs : s.WellNamed) (hk : s.KindsApart)
    (hbl : s.BaselessInterfaces d) (hd : d ∈ s.types) (h : Descends s d.self us b)
    (hsimple : Simple (us ++ [b])) : b.qualifiedName ∉ stoppedNames s d := by
  intro hstopped
  obtain ⟨x, hx, hname⟩ := List.mem_map.1 hstopped
  obtain ⟨ks, ts, hchain, hsimple', hfollows, htwice⟩ := exists_chain_of_stopped hx
  cases us with
  | nil =>
    -- the type itself is expanded at once
    obtain rfl := descends_nil_iff.1 h
    exact (follows_self s d).not_mem_stoppedNames hstopped
  | cons y us =>
    have hfamily : x.familyName = b.familyName := by
      obtain ⟨ks', hchain', -⟩ := h
      exact familyName_eq_of_qualifiedName_eq (hchain.wellNamed hs hd) (hchain'.wellNamed hs hd)
        hname
    -- the walk was stopped at a declared type that is no interface, as `b` is none
    obtain ⟨z, hz, hzx⟩ := List.mem_map.1 htwice
    obtain ⟨e, he⟩ := hchain.exists_declaration z hz
    rw [Snapshot.find?_congr hzx] at he
    have hi : e.isInterface = false :=
      h.isInterface_eq_false hk (by simp) ((Snapshot.find?_congr hfamily.symm).trans he)
    have hfresh : ∀ z ∈ ts.tail, z.familyName ≠ d.key := by
      intro z hz hkey
      cases hchain with
      | none => cases hz
      | step => exact (List.nodup_cons.1 hsimple').1 (List.mem_map.2 ⟨z, hz, hkey⟩)
    have hline : Descends s d.self ts x := hchain.descends hk hbl hfresh he hi
    -- of the two lines the longer one repeats a declaration or has expanded `b` before
    have hnot : ¬ Simple (ts ++ [x]) := fun hboth => (simple_snoc_iff.1 hboth).2 htwice
    rcases hline.linear h with hpre | hpre
    · exact hnot (hsimple.of_prefix hpre)
    · rcases List.prefix_concat_iff.1 hpre with hsame | hbefore
      · exact hnot (hsame ▸ hsimple)
      · exact (hfollows b (hbefore.subset (by simp))).not_mem_stoppedNames hstopped

/-- All interfaces that the declared bases of the type write down are found. -/
def Snapshot.CoversBases (s : Snapshot) (d : Declaration) : Prop :=
  ∀ b ∈ s.basesOf d, ∀ e, s.find? b = some e → ∀ i ∈ e.interfacesAt b,
    i.qualifiedName ∈ (s.interfacesOf d).map qualifiedName

/-- Nothing is lost if the walk is stopped at no name on a line of bases. -/
theorem Snapshot.coversBases_of_unstopped (hs : s.WellNamed) (hd : d ∈ s.types)
    (h : ∀ ts b, Descends s d.self ts b → Simple (ts ++ [b]) →
      b.qualifiedName ∉ stoppedNames s d) : s.CoversBases d := by
  intro b hb e he i hi
  obtain ⟨ts, -, hline, hsimple⟩ := (mem_basesOf_iff hd).1 hb
  -- what stands on the way to `b` is at the end of a shorter line
  have hunstopped : ∀ x ∈ ts ++ [b], x.qualifiedName ∉ stoppedNames s d := by
    intro x hx
    obtain ⟨us, hus, hpre⟩ := hline.exists_prefix hx
    exact h us x hus (hsimple.of_prefix hpre)
  obtain ⟨ks, hchain, -⟩ := hline
  have hinherits : Inherits s d.self (ts ++ [b]) i :=
    ⟨_, hchain.snoc (.toInterface he hi), by simp⟩
  exact found_of_unstopped hs hd hinherits hunstopped

/-- The interface walk finds an interface that a base of the type writes down exactly if some
simple chain leads to one of its name without a name at which the walk is stopped.  If
interfaces and other types are kept apart and no interface has a declared base, the walk is
stopped at no base, and it finds all interfaces of the bases, whatever recursion there is
among them. -/
theorem interfaces_of_bases_found (hs : s.WellNamed) (hd : d ∈ s.types) :
    (s.CoversBases d ↔
      ∀ b ∈ s.basesOf d, ∀ e, s.find? b = some e → ∀ i ∈ e.interfacesAt b,
        ∃ ts u, Inherits s d.self ts u ∧ Simple ts ∧
          (∀ t ∈ ts, t.qualifiedName ∉ stoppedNames s d) ∧ u.qualifiedName = i.qualifiedName) ∧
    (s.KindsApart → s.BaselessInterfaces d →
      (∀ b ∈ s.basesOf d, b.qualifiedName ∉ stoppedNames s d) ∧ s.CoversBases d) := by
  constructor
  · constructor
    · intro h b hb e he i hi
      exact (mem_names_interfacesOf_iff hs hd).1 (h b hb e he i hi)
    · intro h b hb e he i hi
      exact (mem_names_interfacesOf_iff hs hd).2 (h b hb e he i hi)
  · intro hk hbl
    constructor
    · intro b hb
      obtain ⟨ts, -, hline, hsimple⟩ := (Snapshot.mem_basesOf_iff hd).1 hb
      exact hline.not_mem_stoppedNames hs hk hbl hd hsimple
    · apply Snapshot.coversBases_of_unstopped hs hd
      intro ts b hline hsimple
      exact hline.not_mem_stoppedNames hs hk hbl hd hsimple

namespace Ledgers

/-- An order. -/
def order : TypeExpr := .plain ⟨"App", "Order", .classType⟩

/-- A refund. -/
def refund : TypeExpr := .plain ⟨"App", "Refund", .classType⟩

/-- The book of a type. -/
def book (t : TypeExpr) : TypeExpr := .apply ⟨"App", "IBook", .interfaceType⟩ [t]

/-- The ledger of a type. -/
def ledger (t : TypeExpr) : TypeExpr := .apply ⟨"App", "Ledger", .classType⟩ [t]

/-- A worker. -/
def worker : TypeExpr := .plain ⟨"App", "Worker", .classType⟩

/-- A person. -/
def person : TypeExpr := .plain ⟨"App", "Person", .classType⟩

/-- The clerk is a worker and keeps the refunds. -/
def clerk : Declaration :=
  { Showcase.cls "App" "Clerk" with
    base := some worker
    interfaces := [.plain ⟨"App", "IRefunds", .interfaceType⟩] }

/-- Each worker is a person, and each person keeps a ledger of orders.  The ledger of a type
is a book of it and, by its base, a ledger of orders again. -/
def types : List Declaration :=
  [clerk,
    { Showcase.cls "App" "Worker" with base := some person },
    { Showcase.cls "App" "Person" with base := some (ledger order) },
    { Showcase.cls "App" "Ledger" with
      params := ["T"]
      base := some (ledger order)
      interfaces := [book (.param "T")] }]

/-- A module in which the refunds are a book. -/
def snapshot : Snapshot where
  name := "App"
  types := types ++
    [{ Showcase.blank "App" "IRefunds" .interfaceType with interfaces := [book refund] }]
  rules := []
  faultless := by decide

/-- A module in which the refunds have a ledger for a base. -/
def crossed : Snapshot where
  name := "App"
  types := types ++
    [{ Showcase.blank "App" "IRefunds" .interfaceType with base := some (ledger refund) }]
  rules := []
  faultless := by decide

/-- The last base of the clerk is the ledger of orders. -/
theorem hasBase_ledger (s : Snapshot) (hworker : Step s .toBase clerk.self worker)
    (hperson : Step s .toBase worker person) (hledger : Step s .toBase person (ledger order)) :
    s.HasBase clerk (ledger order) := by
  refine ⟨[clerk.self, worker, person], by simp, ?_, ?_⟩
  · apply descends_iff_isChain.2
    exact .cons_cons hworker (.cons_cons hperson (.cons_cons hledger (.singleton _)))
  · rw [Simple]
    decide

end Ledgers

/-- The clerk inherits the book of orders from the last base, and the walk finds it. -/
theorem Ledgers.clerk_keeps_orders :
    snapshot.WellNamed ∧ clerk ∈ snapshot.types ∧ snapshot.KindsApart ∧
      snapshot.BaselessInterfaces clerk ∧ ledger order ∈ snapshot.basesOf clerk ∧
      (ledger order).qualifiedName ∉ stoppedNames snapshot clerk ∧
      (book order).qualifiedName ∈ (snapshot.interfacesOf clerk).map qualifiedName := by
  have hs : snapshot.WellNamed := by decide
  have hd : clerk ∈ snapshot.types := List.mem_cons_self
  have hk : snapshot.KindsApart := by decide
  have hbl : snapshot.BaselessInterfaces clerk := by decide
  have hbase : ledger order ∈ snapshot.basesOf clerk :=
    (Snapshot.mem_basesOf_iff hd).2
      (hasBase_ledger _ (.toBase rfl rfl) (.toBase rfl rfl) (.toBase rfl rfl))
  obtain ⟨hunstopped, hcovers⟩ := (interfaces_of_bases_found hs hd).2 hk hbl
  exact ⟨hs, hd, hk, hbl, hbase, hunstopped _ hbase,
    hcovers _ hbase _ rfl _ List.mem_cons_self⟩

/-- If the refunds have a ledger for a base, the walk comes to the ledger of orders from
there first, and the book of orders is lost. -/
theorem Ledgers.not_all_coversBases :
    ¬ ∀ (s : Snapshot) (d : Declaration), s.WellNamed → s.KindsApart → d ∈ s.types →
      s.CoversBases d := by
  intro h
  have hd : clerk ∈ crossed.types := List.mem_cons_self
  have hcovers := h crossed clerk (by decide) (by decide) hd
  have hbase : ledger order ∈ crossed.basesOf clerk :=
    (Snapshot.mem_basesOf_iff hd).2
      (hasBase_ledger _ (.toBase rfl rfl) (.toBase rfl rfl) (.toBase rfl rfl))
  -- the walk is over after nine visits
  have lost : (book order).qualifiedName ∉ (crossed.interfacesOf clerk).map qualifiedName := by
    rw [interfacesOf_eq_iterate 9 rfl]
    decide
  exact lost (hcovers _ hbase _ rfl _ List.mem_cons_self)

end InjectionPlan
