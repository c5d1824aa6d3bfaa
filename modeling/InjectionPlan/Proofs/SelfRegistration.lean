import InjectionPlan.Proofs.BulkExpansion
import InjectionPlan.Proofs.Outcome

/-! # Types registered as their own service

    A registration names a service only if that is not the implementation itself.
    Register markers keep this rule: a contract of the implementation's own name is
    left out.  Bulk rules pass over the contract's own declaration, but they do not
    compare the names of a match and its candidate.

    So a candidate is registered as its own service if it inherits a match that is
    shown under the candidate's own name (`Declaration.SharesName`).  If names can be
    read back, such a match is a name that could not be resolved, and it has the
    candidate's simple name (`Pairs.sharesName_iff`).
-/

namespace InjectionPlan

open TypeExpr

variable {s : Snapshot} {d : Declaration} {t : TypeExpr} {r : Rule} {h : Host}

/-! ### Shared names -/

/-- A registration of the type for the reference `t` shows the name of the type on both
sides.  A generic type is registered open, and only if the reference forwards its
parameters; a name that could not be resolved is shown in the namespace of the type. -/
def Declaration.SharesName (d : Declaration) (t : TypeExpr) : Prop :=
  if d.isGeneric then d.forwards t = true ∧ t.familyName = d.key
  else if t.isBroken then t.name = d.name
  else t.qualifiedName = d.qualifiedName

/-- A name that could not be resolved is shown like the type if it is the type's own. -/
theorem Declaration.displayName_eq_qualifiedName_iff (hd : d.isGeneric = false)
    (ht : t.isBroken = true) : t.displayName d.ns = d.qualifiedName ↔ t.name = d.name := by
  rw [displayName_of_isBroken ht, d.qualifiedName_of_not_isGeneric hd]
  exact definitionName_eq_iff

/-- The registration for a match shows one name twice exactly if the names are shared. -/
theorem Rule.registration?_self_iff :
    (∃ reg, r.registration? d t = some reg ∧ reg.service = some reg.implementation) ↔
      d.SharesName t := by
  have hpair : (∃ reg, r.registration? d t = some reg ∧ reg.service = some reg.implementation) ↔
      d.canServe t = true ∧ (d.pairing t).1 = (d.pairing t).2 := by
    by_cases hserves : d.canServe t = true
    · rw [registration?, if_pos hserves]
      simp [registration, hserves]
    · rw [registration?, if_neg hserves]
      simp [hserves]
  rw [hpair, Declaration.SharesName, Declaration.canServe, Declaration.pairing, d.isOpen_self]
  by_cases hg : d.isGeneric = true
  · simp [hg]
  · by_cases ht : t.isBroken = true
    · rw [if_neg hg, if_neg hg, if_pos ht]
      simp [hg, d.displayName_eq_qualifiedName_iff (by simpa using hg) ht]
    · rw [if_neg hg, if_neg hg, if_neg ht, displayName_of_not_broken (by simpa using ht)]
      simp [hg]

/-! ### Registrations of a plan -/

/-- A bulk rule of the module has the candidate `d` and finds the match `t` for it. -/
def Snapshot.Pairs (s : Snapshot) (h : Host) (d : Declaration) (t : TypeExpr) : Prop :=
  ∃ m ∈ s.rules, ∃ r, Rule.ofMarker? m = some r ∧ d ∈ r.candidates s ∧ t ∈ r.matchesOf h s d

/-- A register marker never asks for a registration of a type as its own service. -/
theorem Declaration.service_ne_of_mem_registrations {reg : Registration}
    (hreg : reg ∈ d.registrations h) : reg.service ≠ some reg.implementation := by
  obtain ⟨m, -, rfl⟩ := List.mem_map.1 hreg
  intro hservice
  exact Registration.service_make_ne hservice rfl

/-- If names can be read back, only a name that could not be resolved is shared. -/
theorem Snapshot.Pairs.sharesName_iff (hs : s.WellNamed)
    (hrules : ∀ m ∈ s.rules, ∀ c, m.contract? = some c → c.WellNamed) (hp : s.Pairs h d t) :
    d.SharesName t ↔ d.isGeneric = false ∧ t.isBroken = true ∧ t.name = d.name := by
  obtain ⟨m, hm, r, hr, hcandidate, hmatch⟩ := hp
  obtain ⟨c, hc, rfl⟩ := Option.map_eq_some_iff.1 hr
  obtain ⟨hd, hkey⟩ := Rule.key_ne_of_mem_candidates hcandidate
  have hcovers := (Rule.exists_chain_of_mem_matchesOf hd hmatch).1
  have ht : t.WellNamed := Rule.every_of_mem_matchesOf shallow_partWellNamed hs hd hmatch
  -- a match is a form of the contract, and the candidate is not its declaration
  have hforeign : t.familyName ≠ d.key := by
    rw [((covers_iff (hrules m hm c hc) ht).1 hcovers).1]
    exact hkey.symm
  unfold Declaration.SharesName
  by_cases hg : d.isGeneric = true
  · simp [hg, hforeign]
  · by_cases hbroken : t.isBroken = true
    · simp [hg, hbroken]
    · have hname : t.qualifiedName ≠ d.qualifiedName := fun hname =>
        hforeign (familyName_eq_of_qualifiedName_eq ht (hs.self d hd) hname)
      simp [hg, hbroken, hname]

/-- No plan registers a type as its own service, except that a bulk rule does so for a
match that shares the name of its candidate.  If names can be read back, these are the
matches that could not be resolved and have the candidate's simple name. -/
theorem service_ne_implementation_iff (sched : Schedule) (settings : Settings) (s : Snapshot) :
    ((∀ reg ∈ (settings.planBy sched s).registrations, reg.service ≠ some reg.implementation) ↔
      (settings.planBy sched s).isAborted = true ∨
        ∀ d t, s.Pairs settings.host d t → ¬ d.SharesName t) ∧
    (s.WellNamed → (∀ m ∈ s.rules, ∀ c, m.contract? = some c → c.WellNamed) →
      ((∀ reg ∈ (settings.planBy sched s).registrations,
          reg.service ≠ some reg.implementation) ↔
        (settings.planBy sched s).isAborted = true ∨
          ∀ d t, s.Pairs settings.host d t → d.isGeneric = false → t.isBroken = true →
            t.name ≠ d.name)) := by
  have general : (∀ reg ∈ (settings.planBy sched s).registrations,
      reg.service ≠ some reg.implementation) ↔
      (settings.planBy sched s).isAborted = true ∨
        ∀ d t, s.Pairs settings.host d t → ¬ d.SharesName t := by
    constructor
    · intro hne
      by_cases haborted : (settings.planBy sched s).isAborted = true
      · exact .inl haborted
      · refine .inr ?_
        rintro d t ⟨m, hm, r, hr, hcandidate, hmatch⟩ hshares
        obtain ⟨reg, hreg, hself⟩ := (Rule.registration?_self_iff (r := r)).2 hshares
        have hmem : reg ∈ (settings.planBy sched s).registrations := by
          rw [Settings.mem_registrations_planBy_iff]
          refine ⟨by simpa using haborted, .inr ⟨m, hm, ?_⟩⟩
          rw [Expansion.mem_registrations_ofMarker_iff]
          exact ⟨r, hr, d, hcandidate, t, hmatch, hreg⟩
        exact hne reg hmem hself
    · intro hok reg hreg hself
      -- register markers leave such a service out, so a rule has made the registration
      obtain ⟨hcompleted, hreg⟩ := Settings.mem_registrations_planBy_iff.1 hreg
      rcases hok with haborted | hok
      · rw [haborted] at hcompleted
        cases hcompleted
      · rcases hreg with ⟨d, -, hreg⟩ | ⟨m, hm, hreg⟩
        · exact d.service_ne_of_mem_registrations hreg hself
        · obtain ⟨r, hr, d, hcandidate, t, hmatch, hreg⟩ :=
            Expansion.mem_registrations_ofMarker_iff.1 hreg
          exact hok d t ⟨m, hm, r, hr, hcandidate, hmatch⟩
            (Rule.registration?_self_iff.1 ⟨reg, hreg, hself⟩)
  refine ⟨general, ?_⟩
  intro hs hrules
  rw [general]
  apply or_congr_right
  apply forall₃_congr
  intro d t hp
  rw [hp.sharesName_iff hs hrules]
  tauto

namespace Namesake

/-- A name that could not be resolved. -/
def unresolved : TypeExpr := .plain ⟨"", "Service", .broken⟩

/-- Inherits the unresolved name, which is its own simple name. -/
def service : Declaration :=
  { Showcase.cls "App" "Service" with interfaces := [unresolved] }

/-- The rule to register what inherits the unresolved name. -/
def rule : Rule := ⟨unresolved, .transient, false⟩

/-- A module with the service and the rule. -/
def snapshot : Snapshot where
  name := "App"
  types := [service]
  rules := [.bulkByPosition unresolved]
  faultless := by decide

end Namesake

/-- The equivalences at the module with the unresolved name. -/
theorem Namesake.service_ne_implementation_iff_resolved :
    snapshot.WellNamed ∧ (∀ m ∈ snapshot.rules, ∀ c, m.contract? = some c → c.WellNamed) ∧
      ((∀ reg ∈ (Settings.default.planBy .inOrder snapshot).registrations,
          reg.service ≠ some reg.implementation) ↔
        (Settings.default.planBy .inOrder snapshot).isAborted = true ∨
          ∀ d t, snapshot.Pairs .microsoft d t → d.isGeneric = false → t.isBroken = true →
            t.name ≠ d.name) := by
  have hs : snapshot.WellNamed := by decide
  have hcontract : unresolved.WellNamed := by decide
  have hrules : ∀ m ∈ snapshot.rules, ∀ c, m.contract? = some c → c.WellNamed := by
    intro m hm c hc
    obtain rfl := List.mem_singleton.1 hm
    cases hc
    exact hcontract
  exact ⟨hs, hrules, (service_ne_implementation_iff .inOrder .default snapshot).2 hs hrules⟩

/-- The service is registered as its own service. -/
theorem Namesake.not_all_service_ne_implementation :
    ¬ ∀ (sched : Schedule) (settings : Settings) (s : Snapshot),
      ∀ reg ∈ (settings.planBy sched s).registrations,
        reg.service ≠ some reg.implementation := by
  intro hne
  have hfound : snapshot.interfacesOf service = [unresolved] := by
    rw [Snapshot.interfacesOf, InterfaceWalk.run, InterfaceWalk.finish_eq_iterate 2 rfl]
    rfl
  have hmatching : rule.matchingInterfaces snapshot service = [unresolved] := by
    rw [Rule.matchingInterfaces_eq_filter, hfound]
    rfl
  have hmatch : unresolved ∈ rule.matchesOf .microsoft snapshot service := by
    simp [Rule.matchesOf, Rule.searchesBases, hmatching]
  have hmem : ⟨some "App.Service", "App.Service", .transient, none⟩ ∈
      (Settings.default.planBy .inOrder snapshot).registrations := by
    rw [Settings.mem_registrations_planBy_iff]
    refine ⟨rfl, .inr ⟨_, List.mem_cons_self, ?_⟩⟩
    rw [Expansion.mem_registrations_ofMarker_iff]
    exact ⟨rule, rfl, service, List.mem_cons_self, unresolved, hmatch, rfl⟩
  exact hne .inOrder .default snapshot _ hmem rfl

end InjectionPlan
