import InjectionPlan.Proofs.BulkExpansion
import InjectionPlan.Proofs.Scopes

/-! # Open registrations

    A bulk rule registers a generic candidate open, for the open form of what it has
    matched.  The host closes both sides later, over the same arguments, so the
    candidate has to inherit the match for whatever arguments it is closed over.

    The rule checks only that the match is applied to the candidate's own parameters, in
    order.  This is enough in a scoped module in which references agree in arity with
    their declarations: there a chain can be closed step by step (`Chain.close`).  It is
    not enough if a plain name that holds brackets finds a generic declaration: the
    parameters of that declaration are left as they stand, and they may have the
    candidate's names, as those of `Capture.snapshot` do.
-/

namespace InjectionPlan

open TypeExpr

variable {s : Snapshot} {d : Declaration} {t : TypeExpr} {as : List TypeExpr}
  {reg : Registration}

/-! ### Forwarded parameters -/

/-- A reference forwards the parameters of the type if its arguments are these parameters. -/
theorem Declaration.forwards_iff :
    d.forwards t = true ↔
      t.args.map TypeExpr.name = d.params ∧ ∀ a ∈ t.args, a.isParameter = true := by
  unfold forwards
  generalize t.args = as
  generalize d.params = ps
  induction as generalizing ps with
  | nil => cases ps <;> simp
  | cons a as ih =>
    cases ps with
    | nil => simp
    | cons p ps =>
      have ih := ih ps
      simp only [Bool.and_eq_true, beq_iff_eq] at ih
      simp only [List.length_cons, List.zip_cons_cons, List.all_cons, List.map_cons,
        List.cons.injEq, List.forall_mem_cons, Bool.and_eq_true, beq_iff_eq,
        Nat.add_right_cancel_iff]
      tauto

theorem Declaration.forwards_self (d : Declaration) : d.forwards d.self = true := by
  rw [forwards_iff, args_self, List.map_map]
  constructor
  · exact List.map_id _
  · intro a ha
    obtain ⟨n, -, rfl⟩ := List.mem_map.1 ha
    rfl

theorem Declaration.args_ne_nil_of_forwards (hd : d.isGeneric = true) (ht : d.forwards t = true) :
    t.args ≠ [] := by
  intro hnil
  have hparams : d.params = [] := by rw [← (forwards_iff.1 ht).1, hnil]; rfl
  rw [isGeneric_eq_false_iff.2 hparams] at hd
  cases hd

/-- Closing a reference that forwards the parameters applies it to the arguments. -/
theorem Declaration.substitute_of_forwards (hps : d.params.Nodup) (hd : d.isGeneric = true)
    (ht : d.forwards t = true) (hpar : t.isParameter = false) (hlen : as.length = d.params.length) :
    t.substitute (Binding.of d.params as) = apply t.head as := by
  obtain ⟨hnames, hpars⟩ := forwards_iff.1 ht
  -- each argument of `t` is a parameter, and it is replaced by what it is bound to
  have hbound : ∀ a ∈ t.args,
      some (a.substitute (Binding.of d.params as)) = (Binding.of d.params as).lookup a.name := by
    intro a ha
    have hmem : a.name ∈ d.params := hnames ▸ List.mem_map_of_mem ha
    have hsome := Binding.isSome_lookup_of hmem (Nat.le_of_eq hlen.symm)
    obtain ⟨b, hb⟩ := Option.isSome_iff_exists.1 hsome
    rw [substitute_of_parameter (hpars a ha), hb]
    rfl
  have hargs : t.args.map (substitute (Binding.of d.params as)) = as := by
    apply List.map_injective_iff.2 fun _ _ => Option.some.inj
    calc (t.args.map (substitute (Binding.of d.params as))).map some
        = t.args.map fun a => (Binding.of d.params as).lookup a.name := by
          rw [List.map_map]
          exact List.map_congr_left hbound
      _ = d.params.map fun n => (Binding.of d.params as).lookup n := by
          rw [← hnames, List.map_map]
          rfl
      _ = as.map some := Binding.map_lookup_of hps hlen
  have hne := args_ne_nil_of_forwards hd ht
  cases t with
  | plain => exact absurd rfl hne
  | erased => exact absurd rfl hne
  | applied g bs =>
    rw [args_applied] at hargs hne
    rw [substitute_applied hpar, hargs, apply, if_neg]
    · rfl
    · rw [List.isEmpty_iff]
      rintro rfl
      exact hne (List.map_eq_nil_iff.1 hargs)

/-- The family name of a reference with arguments. -/
theorem TypeExpr.familyName_of_args (ht : t.args ≠ []) :
    t.familyName = t.head.definitionName ++ erasedSuffix t.args.length := by
  cases t with
  | plain => exact absurd rfl ht
  | erased => exact absurd rfl ht
  | applied g bs =>
    have hgeneric : (applied g bs).isGeneric = true := decide_eq_true (List.length_pos_iff.2 ht)
    rw [familyName, if_pos hgeneric]
    rfl

/-! ### Registrations of generic candidates -/

namespace Snapshot

/-- The bulk rule that the marker states registers the candidate `d` for the match `t`. -/
def Registers (s : Snapshot) (h : Host) (m : Marker) (d : Declaration) (t : TypeExpr)
    (reg : Registration) : Prop :=
  ∃ r, Rule.ofMarker? m = some r ∧ d ∈ r.candidates s ∧ t ∈ r.matchesOf h s d ∧
    r.registration? d t = some reg

/-- What the registration of a generic type for a match promises. -/
structure ServesOpenly (s : Snapshot) (d : Declaration) (t : TypeExpr) (reg : Registration) :
    Prop where
  /-- The service is the match, with as many arguments erased as the type has parameters. -/
  service : reg.service = some (t.head.definitionName ++ erasedSuffix d.params.length)
  /-- The implementation is the type, with its parameters erased. -/
  implementation : reg.implementation = d.head.definitionName ++ erasedSuffix d.params.length
  /-- Closed over the same arguments, whatever they are, the type inherits the match. -/
  inherits : ∃ ks, ks ≠ [] ∧ ∀ as : List TypeExpr, as.length = d.params.length →
    ∃ ts, Chain s (.apply d.head as) ks ts (.apply t.head as)

end Snapshot

/-- A generic candidate is registered only for a match that forwards its parameters, and
open on both sides. -/
theorem Rule.registration?_of_isGeneric {r : Rule} (hd : d.isGeneric = true)
    (hreg : r.registration? d t = some reg) :
    d.forwards t = true ∧ reg.service = some t.familyName ∧ reg.implementation = d.key := by
  have hopen : d.self.isOpen = true := by rw [d.isOpen_self, hd]
  unfold registration? at hreg
  split at hreg
  · rename_i hserves
    obtain rfl := Option.some.inj hreg
    have hpairing : d.pairing t = (t.familyName, d.key) := by rw [Declaration.pairing, if_pos hopen]
    refine ⟨?_, ?_, ?_⟩
    · simpa [Declaration.canServe, hopen] using hserves
    · rw [registration, hpairing]
    · rw [registration, hpairing]
  · cases hreg

/-- A chain from a generic type to a reference that forwards its parameters leads, over
whatever arguments, from the closed type to the closed reference. -/
theorem Chain.close {ks : List StepKind} {ts : List TypeExpr} (hs : s.Scoped)
    (ha : s.AritiesAgree) (hd : d ∈ s.types) (hps : d.params.Nodup) (hg : d.isGeneric = true)
    (h : Chain s d.self ks ts t) (ht : d.forwards t = true) (hlen : as.length = d.params.length) :
    ∃ ts', Chain s (.apply d.head as) ks ts' (.apply t.head as) := by
  have hsat := s.every_saturates hs ha
  have hself := hsat.self d hd
  have hbare : d.self.Every BareParameter := by
    refine d.every_self ?_ fun _ _ _ => rfl
    intro hpar
    rw [d.isParameter_self] at hpar
    cases hpar
  have hne := d.args_ne_nil_of_forwards hg ht
  have hpar : t.isParameter = false := by
    -- no parameter on the way takes arguments, and `t` has some
    have hbare' : t.Every BareParameter := by
      refine h.every_of_scoped ?_ hs hsat hself hbare
      intro u hu hpar
      rw [hu] at hpar
      cases hpar
    rw [← Bool.not_eq_true]
    exact fun hpar => hne (hbare'.self hpar)
  have hopen : ¬ t.Every fun u => u.isParameter = false := by
    intro hclosed
    obtain ⟨a, ha⟩ := List.exists_mem_of_ne_nil _ hne
    have hpar : a.isParameter = true := (Declaration.forwards_iff.1 ht).2 a ha
    rw [(hclosed.args a ha).self] at hpar
    cases hpar
  have hclose := h.substitute (Binding.of d.params as) hs hsat hself hbare hopen
  rw [Declaration.substitute_of_forwards hps hg d.forwards_self d.isParameter_self hlen,
    Declaration.substitute_of_forwards hps hg ht hpar hlen, d.head_self] at hclose
  exact ⟨_, hclose⟩

/-- All registrations of a marker are made for a match of a candidate. -/
theorem Snapshot.mem_registrations_iff_registers {h : Host} {m : Marker} :
    reg ∈ (Expansion.ofMarker h s m).registrations ↔ ∃ d t, s.Registers h m d t reg := by
  rw [Expansion.mem_registrations_ofMarker_iff]
  constructor
  · rintro ⟨r, hr, d, hd, t, ht, hreg⟩
    exact ⟨d, t, r, hr, hd, ht, hreg⟩
  · rintro ⟨d, t, r, hr, hd, ht, hreg⟩
    exact ⟨r, hr, d, hd, t, ht, hreg⟩

/-- A candidate is registered for an interface if the rule's contract is one. -/
theorem Snapshot.registers_of_mem_interfacesOf {h : Host} {m : Marker} {r : Rule}
    (hr : Rule.ofMarker? m = some r) (hi : r.isInterface s = true) (hd : d ∈ r.candidates s)
    (ht : t ∈ s.interfacesOf d) (hcovers : r.contract.covers t = true)
    (hreg : r.registration? d t = some reg) : s.Registers h m d t reg := by
  refine ⟨r, hr, hd, ?_, hreg⟩
  rw [Rule.matchesOf_of_isInterface h hi]
  exact List.mem_filter.2 ⟨ht, hcovers⟩

/-- In a scoped module in which references agree in arity with their declarations, all
registrations of generic candidates are sound: they are open on both sides, and over
whatever arguments both sides are closed, the implementation inherits the service. -/
theorem open_registrations_sound (h : Host) {s : Snapshot} (m : Marker) (hs : s.Scoped)
    (hps : ∀ d ∈ s.types, d.params.Nodup) (ha : s.AritiesAgree) :
    (∀ reg, reg ∈ (Expansion.ofMarker h s m).registrations ↔ ∃ d t, s.Registers h m d t reg) ∧
    ∀ d t reg, s.Registers h m d t reg → d.isGeneric = true → s.ServesOpenly d t reg := by
  constructor
  · exact fun reg => Snapshot.mem_registrations_iff_registers
  · rintro d t reg ⟨r, hr, hcandidate, hmatch, hreg⟩ hg
    obtain ⟨hd, -⟩ := Rule.key_ne_of_mem_candidates hcandidate
    obtain ⟨-, ks, ts, hchain, hks⟩ := Rule.exists_chain_of_mem_matchesOf hd hmatch
    obtain ⟨hforwards, hservice, himplementation⟩ := Rule.registration?_of_isGeneric hg hreg
    have hcount : t.args.length = d.params.length := by
      rw [← (Declaration.forwards_iff.1 hforwards).1, List.length_map]
    constructor
    case service =>
      rw [hservice, familyName_of_args (d.args_ne_nil_of_forwards hg hforwards), hcount]
    case implementation =>
      rw [himplementation, Declaration.key,
        familyName_of_args (d.args_ne_nil_of_forwards hg d.forwards_self), d.head_self, d.args_self,
        List.length_map]
    case inherits =>
      exact ⟨ks, hks, fun as hlen => hchain.close hs ha hd (hps d hd) hg hforwards hlen⟩

namespace Caches

/-- The map from one type to another. -/
def map (k v : TypeExpr) : TypeExpr := .apply ⟨"App", "IMap", .interfaceType⟩ [k, v]

/-- The cache swaps its parameters on the way to its base, and the base swaps them back,
under the same names. -/
def cache : Declaration :=
  { Showcase.cls "App" "Cache" with
    params := ["K", "V"]
    base := some (.apply ⟨"App", "Store", .classType⟩ [.param "V", .param "K"]) }

/-- A module with the cache, its base and the map. -/
def snapshot : Snapshot where
  name := "App"
  types :=
    [{ Showcase.blank "App" "IMap" .interfaceType with params := ["K", "V"] },
      { Showcase.cls "App" "Store" with
        params := ["K", "V"]
        interfaces := [map (.param "V") (.param "K")]
        declaredAbstract := true },
      cache]
  rules := []
  faultless := by decide

/-- Register all maps. -/
def marker : Marker := .bulkByPosition (.erase ⟨"App", "IMap", .interfaceType⟩ 2)

end Caches

/-- The cache serves as a map, over whatever keys and values. -/
theorem Caches.serves_openly :
    snapshot.Scoped ∧ (∀ d ∈ snapshot.types, d.params.Nodup) ∧ snapshot.AritiesAgree ∧
      snapshot.Registers .microsoft marker cache (map (.param "K") (.param "V"))
        ⟨some "App.IMap<,>", "App.Cache<,>", .transient, none⟩ ∧
      snapshot.ServesOpenly cache (map (.param "K") (.param "V"))
        ⟨some "App.IMap<,>", "App.Cache<,>", .transient, none⟩ := by
  have hs : snapshot.Scoped := by decide
  have hps : ∀ d ∈ snapshot.types, d.params.Nodup := by decide
  have ha : snapshot.AritiesAgree := Snapshot.aritiesAgree_of_names (by decide)
  have hfound : snapshot.interfacesOf cache = [map (.param "K") (.param "V")] := by
    rw [Snapshot.interfacesOf, InterfaceWalk.run, InterfaceWalk.finish_eq_iterate 3 rfl]
    rfl
  have hregisters : snapshot.Registers .microsoft marker cache (map (.param "K") (.param "V"))
      ⟨some "App.IMap<,>", "App.Cache<,>", .transient, none⟩ := by
    refine ⟨_, rfl, List.mem_cons_self, ?_, rfl⟩
    rw [Rule.matchesOf_of_isInterface _ rfl, hfound]
    exact List.mem_cons_self
  exact ⟨hs, hps, ha, hregisters,
    (open_registrations_sound .microsoft marker hs hps ha).2 _ _ _ hregisters rfl⟩

namespace Capture

/-- The sink of a type. -/
def sink (t : TypeExpr) : TypeExpr := .apply ⟨"App", "ISink", .interfaceType⟩ [t]

/-- A plain name that is written like the erased source. -/
def bracketed : TypeExpr := .plain ⟨"App", "ISource<>", .interfaceType⟩

/-- Inherits the plain name, not the source of its own parameter. -/
def pump : Declaration :=
  { Showcase.cls "App" "Pump" with
    params := ["T"]
    interfaces := [bracketed] }

/-- A module in which the plain name finds the generic source, whose parameter is then
taken for the one of the pump. -/
def snapshot : Snapshot where
  name := "App"
  types :=
    [pump,
      { Showcase.blank "App" "ISource" .interfaceType with
        params := ["T"]
        interfaces := [sink (.param "T")] },
      { Showcase.blank "App" "ISink" .interfaceType with params := ["T"] }]
  rules := []
  faultless := by decide

/-- Register all sinks. -/
def marker : Marker := .bulkByPosition (.erase ⟨"App", "ISink", .interfaceType⟩ 1)

/-- An order, of which the module does not know. -/
def order : TypeExpr := .plain ⟨"App", "Order", .classType⟩

end Capture

/-- The pump is registered for the open sink, but the pump of orders does not inherit the
sink of orders. -/
theorem Capture.not_all_open_registrations_sound :
    ¬ ∀ (h : Host) (s : Snapshot) (m : Marker), s.Scoped →
      (∀ d ∈ s.types, d.params.Nodup) →
      ∀ d t reg, s.Registers h m d t reg → d.isGeneric = true → s.ServesOpenly d t reg := by
  intro hsound
  have hfound : snapshot.interfacesOf pump = [bracketed, sink (.param "T")] := by
    rw [Snapshot.interfacesOf, InterfaceWalk.run, InterfaceWalk.finish_eq_iterate 3 rfl]
    rfl
  have hregisters : snapshot.Registers .microsoft marker pump (sink (.param "T"))
      ⟨some "App.ISink<>", "App.Pump<>", .transient, none⟩ := by
    refine ⟨_, rfl, List.mem_cons_self, ?_, rfl⟩
    rw [Rule.matchesOf_of_isInterface _ rfl, hfound]
    exact List.mem_cons_self
  have hserves := hsound .microsoft snapshot marker (by decide) (by decide) _ _ _ hregisters rfl
  obtain ⟨ks, hks, hclosed⟩ := hserves.inherits
  obtain ⟨ts, hchain⟩ := hclosed [order] rfl
  -- the first step forgets the orders, and the module does not bring them back
  obtain ⟨k, u, ks', ts', hstep, hrest⟩ := hchain.exists_first_step hks
  have hu : u = bracketed := by
    obtain ⟨e, he, hinherited, -⟩ := hstep.exists_declaration
    cases he
    exact List.mem_singleton.1 hinherited
  have hforgotten : u.Every fun v => v.name ≠ "Order" := by
    rw [hu]
    exact .plain (by decide)
  have hshallow : Shallow fun v => v.name ≠ "Order" := fun _ _ _ _ h => h
  have hmodule : snapshot.Every fun v => v.name ≠ "Order" := by decide
  have horder := (hrest.every hshallow hmodule hforgotten).args order List.mem_cons_self
  exact horder.self rfl

end InjectionPlan
