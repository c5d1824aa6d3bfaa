import InjectionPlan.Inheritance.BaseWalk
import InjectionPlan.Proofs.Chains
import InjectionPlan.Proofs.Faultless
import InjectionPlan.Showcase.Shop
import Mathlib.Data.List.Chain

/-! # What the base walk finds

    A type has one base at most, so all that it descends from stands in one line
    (`Descends.linear`).  The walk follows this line until there is no base, until a base is
    not declared, or until the next base is a form of a definition that has occurred.

    - `Line` and `Climbs` say which references these are, without the walk: the first says
      how they follow each other, the second that they go on as far as they can;
    - `Line.isPrefix` and `Climbs.unique`: nothing else is all bases;
    - `climbs_above`: the walk returns all bases;
    - `HasBase.unique`: among the bases is one form at most of each definition;
    - `mem_basesOf_iff`: the bases of a declared type are those from which it descends
      without meeting a definition twice;
    - `basesOf_exact`: all this for the walk from a type, with the length of what it returns.
-/

namespace InjectionPlan

open TypeExpr

variable {s : Snapshot} {d e : Declaration} {t u b c : TypeExpr} {ts us bs : List TypeExpr}
  {used : List String} {k : StepKind}

/-! ### Lines of bases -/

theorem step_toBase_iff :
    Step s .toBase t b ↔ ∃ d, s.find? t = some d ∧ d.baseAt t = some b := by
  constructor
  · rintro (_ | ⟨hd, hb⟩)
    exact ⟨_, hd, hb⟩
  · rintro ⟨d, hd, hb⟩
    exact .toBase hd hb

/-- A reference has one base at most. -/
theorem Step.base_unique (hb : Step s .toBase t b) (hc : Step s .toBase t c) : b = c := by
  obtain ⟨d, hd, hb⟩ := step_toBase_iff.1 hb
  obtain ⟨e, he, hc⟩ := step_toBase_iff.1 hc
  rw [hd] at he
  cases he
  exact Option.some.inj (hb.symm.trans hc)

/-- Steps to bases lead from the reference `t` to `b`.  The references `ts` are expanded on
the way. -/
def Descends (s : Snapshot) (t : TypeExpr) (ts : List TypeExpr) (b : TypeExpr) : Prop :=
  ∃ ks, Chain s t ks ts b ∧ ∀ k ∈ ks, k = .toBase

theorem descends_nil_iff : Descends s t [] b ↔ t = b := by
  constructor
  · rintro ⟨ks, hchain, -⟩
    cases hchain
    rfl
  · rintro rfl
    exact ⟨[], .none t, by simp⟩

theorem descends_cons_iff :
    Descends s t (u :: ts) b ↔ u = t ∧ ∃ c, Step s .toBase t c ∧ Descends s c ts b := by
  constructor
  · rintro ⟨ks, hchain, hks⟩
    cases hchain with
    | step hstep hrest =>
      obtain ⟨rfl, hrests⟩ := List.forall_mem_cons.1 hks
      exact ⟨rfl, _, hstep, _, hrest, hrests⟩
  · rintro ⟨rfl, c, hstep, ks, hrest, hks⟩
    exact ⟨.toBase :: ks, .step hstep hrest, List.forall_mem_cons.2 ⟨rfl, hks⟩⟩

/-- Of two lines of bases from one reference, one goes on with the other. -/
theorem Descends.linear (hb : Descends s t ts b) (hc : Descends s t us c) :
    ts ++ [b] <+: us ++ [c] ∨ us ++ [c] <+: ts ++ [b] := by
  induction ts generalizing t us with
  | nil =>
    obtain rfl := descends_nil_iff.1 hb
    cases us with
    | nil =>
      obtain rfl := descends_nil_iff.1 hc
      exact .inl (List.prefix_refl _)
    | cons u us =>
      obtain ⟨rfl, -⟩ := descends_cons_iff.1 hc
      exact .inl (List.prefix_append [u] (us ++ [c]))
  | cons x ts ih =>
    obtain ⟨rfl, x', hstep, hb'⟩ := descends_cons_iff.1 hb
    cases us with
    | nil =>
      obtain rfl := descends_nil_iff.1 hc
      exact .inr (List.prefix_append [x] (ts ++ [b]))
    | cons u us =>
      -- both lines take the same first step
      obtain ⟨rfl, u', hstep', hc'⟩ := descends_cons_iff.1 hc
      obtain rfl := hstep.base_unique hstep'
      rcases ih hb' hc' with h | h
      · exact .inl ((List.prefix_cons_inj u).2 h)
      · exact .inr ((List.prefix_cons_inj u).2 h)

/-- Expanding some references one after another is a chain of steps. -/
theorem descends_iff_isChain :
    Descends s t (t :: ts) b ↔ (t :: (ts ++ [b])).IsChain (Step s .toBase) := by
  induction ts generalizing t with
  | nil => simp [descends_cons_iff, descends_nil_iff]
  | cons u ts ih =>
    rw [descends_cons_iff, List.cons_append, List.isChain_cons_cons, ← ih]
    constructor
    · rintro ⟨-, c, hstep, hline⟩
      obtain ⟨rfl, -⟩ := descends_cons_iff.1 hline
      exact ⟨hstep, hline⟩
    · rintro ⟨hstep, hline⟩
      exact ⟨rfl, u, hstep, hline⟩

namespace BaseChain

/-! ### All bases of a reference -/

/-- The base with which the bases `bs` of the reference `t` to `d` would go on: the one of
`d` if there are no bases yet, and otherwise the one of the declaration behind the last
base. -/
def nextBase? (s : Snapshot) (d : Declaration) (t : TypeExpr) (bs : List TypeExpr) :
    Option TypeExpr :=
  match bs.getLast? with
  | none => d.baseAt t
  | some b => (s.find? b).bind (·.baseAt b)

/-- The references `bs` are bases of the reference `t` to `d`, the nearest first, if the
definitions with the keys `used` lie behind it. -/
structure Line (s : Snapshot) (used : List String) (d : Declaration) (t : TypeExpr)
    (bs : List TypeExpr) : Prop where
  /-- The first one is the base of `d`, seen from `t`. -/
  first : ∀ b ∈ bs.head?, d.baseAt t = some b
  /-- A step to the base leads from each one to the next. -/
  next : bs.IsChain (Step s .toBase)
  /-- No definition occurs twice among them. -/
  simple : Simple bs
  /-- None of them is a form of a definition that lies behind. -/
  fresh : ∀ b ∈ bs, b.familyName ∉ used

/-- The references are all bases: there is no base to go on with, or the next base is a form
of a definition that has occurred. -/
structure Climbs (s : Snapshot) (used : List String) (d : Declaration) (t : TypeExpr)
    (bs : List TypeExpr) : Prop extends Line s used d t bs where
  /-- Where the bases end. -/
  ends : ∀ b, nextBase? s d t bs = some b → b.familyName ∈ used ++ bs.map familyName

/-- From a declared base the line goes on as it does from the base alone. -/
theorem nextBase?_cons (he : s.find? b = some e) :
    nextBase? s d t (b :: bs) = nextBase? s e b bs := by
  cases bs with
  | nil => simp [nextBase?, he]
  | cons c bs => rw [nextBase?, nextBase?, List.getLast?_cons_cons, List.getLast?_cons]

theorem Line.nil : Line s used d t [] where
  first := by simp
  next := .nil
  simple := List.nodup_nil
  fresh := by simp

theorem Line.singleton (hbase : d.baseAt t = some b) (hused : b.familyName ∉ used) :
    Line s used d t [b] where
  first := by simpa using hbase
  next := .singleton b
  simple := List.nodup_singleton _
  fresh := by simpa using hused

/-- A declared base stands before its own bases. -/
theorem Line.cons (hbase : d.baseAt t = some b) (hused : b.familyName ∉ used)
    (he : s.find? b = some e) (h : Line s (b.familyName :: used) e b bs) :
    Line s used d t (b :: bs) where
  first := by simpa using hbase
  next := List.isChain_cons.2 ⟨fun c hc => .toBase he (h.first c hc), h.next⟩
  simple := by
    refine List.nodup_cons.2 ⟨?_, h.simple⟩
    intro hb
    obtain ⟨c, hc, hcb⟩ := List.mem_map.1 hb
    exact h.fresh c hc (hcb ▸ List.mem_cons_self)
  fresh := by
    intro c hc
    rcases List.mem_cons.1 hc with rfl | hc
    · exact hused
    · exact fun hcu => h.fresh c hc (List.mem_cons_of_mem _ hcu)

/-- Behind a base that is declared the line is one of its own bases. -/
theorem Line.tail (h : Line s used d t (b :: bs)) (he : s.find? b = some e) :
    Line s (b.familyName :: used) e b bs where
  first c hc := by
    obtain ⟨e', he', hbase⟩ := step_toBase_iff.1 ((List.isChain_cons.1 h.next).1 c hc)
    rw [he] at he'
    cases he'
    exact hbase
  next := (List.isChain_cons.1 h.next).2
  simple := (List.nodup_cons.1 h.simple).2
  fresh := by
    intro c hc hmem
    rcases List.mem_cons.1 hmem with hcb | hcu
    · exact (List.nodup_cons.1 h.simple).1 (hcb ▸ List.mem_map_of_mem hc)
    · exact h.fresh c (List.mem_cons_of_mem _ hc) hcu

/-- Behind a base that is not declared there is none. -/
theorem Line.tail_eq_nil (h : Line s used d t (b :: bs)) (hnone : s.find? b = none) :
    bs = [] := by
  rw [← List.head?_eq_none_iff, Option.eq_none_iff_forall_not_mem]
  intro c hc
  obtain ⟨e, he, -⟩ := step_toBase_iff.1 ((List.isChain_cons.1 h.next).1 c hc)
  rw [hnone] at he
  cases he

theorem Line.of_prefix (h : Line s used d t bs) (hts : ts <+: bs) : Line s used d t ts where
  first := by
    intro b hb
    cases ts with
    | nil => cases hb
    | cons c ts =>
      obtain ⟨rest, rfl⟩ := hts
      exact h.first b hb
  next := h.next.prefix hts
  simple := h.simple.of_prefix hts
  fresh b hb := h.fresh b (hts.subset hb)

theorem Climbs.cons (hbase : d.baseAt t = some b) (hused : b.familyName ∉ used)
    (he : s.find? b = some e) (h : Climbs s (b.familyName :: used) e b bs) :
    Climbs s used d t (b :: bs) where
  toLine := .cons hbase hused he h.toLine
  ends c hc := List.perm_middle.mem_iff.2 (h.ends c ((nextBase?_cons he).symm.trans hc))

theorem Climbs.tail (h : Climbs s used d t (b :: bs)) (he : s.find? b = some e) :
    Climbs s (b.familyName :: used) e b bs where
  toLine := h.toLine.tail he
  ends c hc := List.perm_middle.mem_iff.1 (h.ends c ((nextBase?_cons he).trans hc))

/-- What stands in a line is among all bases, at the same place. -/
theorem Line.isPrefix (hts : Line s used d t ts) (h : Climbs s used d t bs) : ts <+: bs := by
  induction ts generalizing used d t bs with
  | nil => exact List.nil_prefix
  | cons b ts ih =>
    have hbase : d.baseAt t = some b := hts.first b rfl
    cases bs with
    | nil =>
      -- the line would go on with `b`
      have hused : b.familyName ∈ used := by simpa using h.ends b hbase
      exact absurd hused (hts.fresh b List.mem_cons_self)
    | cons c bs =>
      obtain rfl : b = c := Option.some.inj (hbase.symm.trans (h.first c rfl))
      refine (List.prefix_cons_inj b).2 ?_
      cases he : s.find? b with
      | none => rw [hts.tail_eq_nil he]; exact List.nil_prefix
      | some e => exact ih (hts.tail he) (h.tail he)

/-- So no other references are all bases. -/
theorem Climbs.unique (hts : Climbs s used d t ts) (h : Climbs s used d t bs) : ts = bs :=
  (hts.isPrefix h).eq_of_length_le (h.isPrefix hts).length_le

/-! ### The walk -/

/-- A walk that can follow a base goes on with the declaration behind it. -/
theorem above_of_base (hbase : d.baseAt t = some b) (hused : b.familyName ∉ used) :
    above s used d t =
      match s.find? b with
      | none => ⟨[b], none⟩
      | some e => cons b (above s (b.familyName :: used) e b) := by
  rw [above, hbase]
  simp only [dif_neg hused]
  split
  · rename_i hnone
    rw [hnone]
  · rename_i e he
    rw [he]

/-- The walk returns all bases, and stops at the one with which they would go on. -/
theorem climbs_above (s : Snapshot) (used : List String) (d : Declaration) (t : TypeExpr) :
    Climbs s used d t (above s used d t).bases ∧
      (above s used d t).cycle = nextBase? s d t (above s used d t).bases := by
  induction used, d, t using above.induct s with
  | case1 used d t hbase =>
    rw [above, hbase]
    refine ⟨⟨.nil, ?_⟩, hbase.symm⟩
    intro b hb
    cases hbase.symm.trans hb
  | case2 used d t b hbase hused =>
    -- the base closes a cycle
    have habove : above s used d t = ⟨[], some b⟩ := by
      rw [above, hbase]
      simp only [dif_pos hused]
    rw [habove]
    refine ⟨⟨.nil, ?_⟩, hbase.symm⟩
    intro c hc
    obtain rfl : b = c := Option.some.inj (hbase.symm.trans hc)
    exact List.mem_append_left _ hused
  | case3 used d t b hbase hused hnone =>
    -- nothing is known of the base of `b`
    have hnext : nextBase? s d t [b] = none := by simp [nextBase?, hnone]
    rw [above_of_base hbase hused, hnone]
    refine ⟨⟨.singleton hbase hused, ?_⟩, hnext.symm⟩
    intro c hc
    cases hnext.symm.trans hc
  | case4 used d t b hbase hused e he ih =>
    rw [above_of_base hbase hused, he]
    exact ⟨ih.1.cons hbase hused he, ih.2.trans (nextBase?_cons he).symm⟩

/-- What the walk returns is what stands at the end of a line. -/
theorem mem_bases_above_iff :
    b ∈ (above s used d t).bases ↔ ∃ ts, Line s used d t (ts ++ [b]) := by
  have hall := (climbs_above s used d t).1
  constructor
  · intro hb
    obtain ⟨ts, rest, hbases⟩ := List.append_of_mem hb
    exact ⟨ts, hall.of_prefix ⟨rest, by simp [hbases]⟩⟩
  · rintro ⟨ts, hline⟩
    exact (hline.isPrefix hall).subset (by simp)

/-- From a declared reference a line is a chain of steps to bases. -/
theorem line_iff (hd : s.find? t = some d) :
    Line s used d t bs ↔
      (t :: bs).IsChain (Step s .toBase) ∧ Simple bs ∧ ∀ b ∈ bs, b.familyName ∉ used := by
  rw [List.isChain_cons]
  constructor
  · intro h
    exact ⟨⟨fun b hb => .toBase hd (h.first b hb), h.next⟩, h.simple, h.fresh⟩
  · rintro ⟨⟨hfirst, hnext⟩, hsimple, hfresh⟩
    refine ⟨?_, hnext, hsimple, hfresh⟩
    intro b hb
    obtain ⟨e, he, hbase⟩ := step_toBase_iff.1 (hfirst b hb)
    rw [hd] at he
    cases he
    exact hbase

end BaseChain

/-! ### The bases of a declared type -/

/-- The type descends from `b`, and no definition is met twice on the way. -/
def Snapshot.HasBase (s : Snapshot) (d : Declaration) (b : TypeExpr) : Prop :=
  ∃ ts, ts ≠ [] ∧ Descends s d.self ts b ∧ Simple (ts ++ [b])

/-- A type has one base at most of each definition. -/
theorem Snapshot.HasBase.unique (hb : s.HasBase d b) (hc : s.HasBase d c)
    (hfamily : b.familyName = c.familyName) : b = c := by
  -- of two bases the nearer one stands on the way to the other one
  have not_before {ts us : List TypeExpr} {x y : TypeExpr} (hpre : ts ++ [x] <+: us ++ [y])
      (hsimple : Simple (us ++ [y])) (hxy : x.familyName = y.familyName) : x = y := by
    rcases List.prefix_concat_iff.1 hpre with hsame | hbefore
    · exact List.singleton_inj.1 (List.append_inj_right' hsame rfl)
    · have hx : x ∈ us := hbefore.subset (by simp)
      exact absurd (hxy ▸ List.mem_map_of_mem hx) (simple_snoc_iff.1 hsimple).2
  obtain ⟨ts, -, hline, hsimple⟩ := hb
  obtain ⟨ts', -, hline', hsimple'⟩ := hc
  rcases hline.linear hline' with hpre | hpre
  · exact not_before hpre hsimple' hfamily
  · exact (not_before hpre hsimple hfamily.symm).symm

theorem Snapshot.HasBase.wellNamed (hs : s.WellNamed) (hd : d ∈ s.types) (hb : s.HasBase d b) :
    b.WellNamed := by
  obtain ⟨ts, -, ⟨ks, hchain, -⟩, -⟩ := hb
  exact hchain.wellNamed hs hd

theorem Snapshot.mem_basesOf_iff (hd : d ∈ s.types) : b ∈ s.basesOf d ↔ s.HasBase d b := by
  have hfresh (ts : List TypeExpr) : Simple (d.self :: (ts ++ [b])) ↔
      Simple (ts ++ [b]) ∧ ∀ x ∈ ts ++ [b], x.familyName ∉ [d.key] := by
    simp only [Simple, List.map_cons, List.nodup_cons, List.mem_singleton, List.mem_map, not_exists,
      not_and]
    exact and_comm
  constructor
  · intro hb
    obtain ⟨ts, hline⟩ := BaseChain.mem_bases_above_iff.1 hb
    obtain ⟨hchain, hsimple⟩ := (BaseChain.line_iff (find?_self hd)).1 hline
    exact ⟨d.self :: ts, by simp, descends_iff_isChain.2 hchain, (hfresh ts).2 hsimple⟩
  · rintro ⟨ts, hts, hline, hsimple⟩
    obtain ⟨x, ts, rfl⟩ := List.exists_cons_of_ne_nil hts
    obtain ⟨rfl, -⟩ := descends_cons_iff.1 hline
    refine BaseChain.mem_bases_above_iff.2 ⟨ts, (BaseChain.line_iff (find?_self hd)).2 ?_⟩
    exact ⟨descends_iff_isChain.1 hline, (hfresh ts).1 hsimple⟩

/-- All bases of a declared type are reached by steps to bases. -/
theorem Snapshot.exists_chain_of_mem_basesOf (hd : d ∈ s.types) (hb : b ∈ s.basesOf d) :
    ∃ ks ts, Chain s d.self ks ts b ∧ ks ≠ [] ∧ ∀ k ∈ ks, k = .toBase := by
  obtain ⟨ts, hts, ⟨ks, hchain, hks⟩, -⟩ := (mem_basesOf_iff hd).1 hb
  refine ⟨ks, ts, hchain, ?_, hks⟩
  rintro rfl
  cases hchain
  exact hts rfl

/-! ### The walk from a type -/

/-- Only the last one of a run of steps may be undeclared. -/
theorem exists_declaration_of_mem_dropLast (h : bs.IsChain (Step s k)) (hb : b ∈ bs.dropLast) :
    ∃ e, s.find? b = some e := by
  induction bs with
  | nil => cases hb
  | cons c bs ih =>
    cases bs with
    | nil => cases hb
    | cons c' bs =>
      obtain ⟨hstep, hrest⟩ := List.isChain_cons_cons.1 h
      rcases List.mem_cons.1 hb with rfl | hb
      · obtain ⟨e, he, -⟩ := hstep.exists_declaration
        exact ⟨e, he⟩
      · exact ih hrest hb

/-- Whatever cycles there are in the module, the walk from a type, declared or not, returns
all its bases and nothing else.  If the next base is a form of a definition that has
occurred, this is the reference at which the walk is stopped.  All bases but the last are
declared, so there are no more of them than declared types, or one more if the type itself
is not declared. -/
theorem basesOf_exact (s : Snapshot) (d : Declaration) :
    (∀ bs, BaseChain.Climbs s [d.key] d d.self bs ↔ bs = s.basesOf d) ∧
    (BaseChain.run s d).cycle = BaseChain.nextBase? s d d.self (s.basesOf d) ∧
    (∀ b ∈ (s.basesOf d).dropLast, ∃ e, s.find? b = some e) ∧
    (d.key ∈ s.keys → (s.basesOf d).length ≤ s.types.length) ∧
    (s.basesOf d).length ≤ s.types.length + 1 := by
  obtain ⟨hall, hcycle⟩ := BaseChain.climbs_above s [d.key] d d.self
  have hdeclared : ∀ b ∈ (s.basesOf d).dropLast, ∃ e, s.find? b = some e := fun b hb =>
    exists_declaration_of_mem_dropLast hall.next hb
  -- the keys of all bases but the last
  have hkeys : ∀ k ∈ (s.basesOf d).dropLast.map familyName, k ∈ s.keys := by
    intro k hk
    obtain ⟨b, hb, rfl⟩ := List.mem_map.1 hk
    obtain ⟨e, he⟩ := hdeclared b hb
    exact Snapshot.familyName_mem_keys he
  have hnodup : ((s.basesOf d).dropLast.map familyName).Nodup :=
    ((List.dropLast_sublist _).map familyName).nodup hall.simple
  refine ⟨?_, hcycle, hdeclared, ?_, ?_⟩
  · intro bs
    constructor
    · exact fun h => h.unique hall
    · rintro rfl
      exact hall
  · intro hd
    -- the key of the type is none of them
    have hfresh : d.key ∉ (s.basesOf d).dropLast.map familyName := by
      intro hmem
      obtain ⟨b, hb, hkey⟩ := List.mem_map.1 hmem
      exact hall.fresh b (List.dropLast_subset _ hb) (by simp [hkey])
    have hle := Snapshot.length_le_of_keys (List.nodup_cons.2 ⟨hfresh, hnodup⟩)
      (List.forall_mem_cons.2 ⟨hd, hkeys⟩)
    simp only [List.length_cons, List.length_map, List.length_dropLast] at hle
    omega
  · have hle := Snapshot.length_le_of_keys hnodup hkeys
    simp only [List.length_map, List.length_dropLast] at hle
    omega

namespace Spiral

/-- The wrapped type. -/
def wrap (t : TypeExpr) : TypeExpr := .apply ⟨"App", "Wrap", .classType⟩ [t]

/-- One turn of the spiral. -/
def inner (t : TypeExpr) : TypeExpr := .apply ⟨"App", "Inner", .classType⟩ [t]

/-- The other turn. -/
def outer (t : TypeExpr) : TypeExpr := .apply ⟨"App", "Outer", .classType⟩ [t]

/-- An order. -/
def order : TypeExpr := .plain ⟨"App", "Order", .classType⟩

/-- Where the spiral begins. -/
def core : Declaration := { Showcase.cls "App" "Core" with base := some (inner order) }

/-- A module in which each turn has the other one for a base, over a larger argument. -/
def snapshot : Snapshot where
  name := "App"
  types :=
    [core,
      { Showcase.cls "App" "Inner" with
        params := ["T"]
        base := some (outer (wrap (.param "T"))) },
      { Showcase.cls "App" "Outer" with
        params := ["T"]
        base := some (inner (wrap (.param "T"))) }]
  rules := []
  faultless := by decide

end Spiral

/-- The walk takes each turn once, and it is stopped when the first one comes back larger. -/
theorem Spiral.basesOf_core :
    core.key ∈ snapshot.keys ∧
      snapshot.basesOf core = [inner order, outer (wrap order)] ∧
      (BaseChain.run snapshot core).cycle = some (inner (wrap (wrap order))) ∧
      (snapshot.basesOf core).length ≤ snapshot.types.length := by
  obtain ⟨hexact, hcycle, -, hlength, -⟩ := basesOf_exact snapshot core
  have hall : BaseChain.Climbs snapshot [core.key] core core.self
      [inner order, outer (wrap order)] := {
    first := by
      rintro b ⟨⟩
      rfl
    next := .cons_cons (.toBase rfl rfl) (.singleton _)
    simple := by
      rw [Simple]
      decide
    fresh := by decide
    ends := by
      rintro b ⟨⟩
      decide }
  have hbases := ((hexact _).1 hall).symm
  have hkey : core.key ∈ snapshot.keys := by decide
  refine ⟨hkey, hbases, ?_, hlength hkey⟩
  rw [hcycle, hbases]
  rfl

end InjectionPlan
