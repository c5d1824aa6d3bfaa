import InjectionPlan.Proofs.Outcome

/-! # What the log of a pass adds up to

    A pass by one worker tells how it begins and how it ends, and in between what becomes
    of each type and of each rule.  Some of these events carry numbers.  They add up to
    the numbers that the pass ends with, and those are the numbers of instructions and
    diagnostics in the plan (`journal_accounts`).

    A log shows messages and fields, so numbers are read off events by these.  All that is
    read here depends on four kinds of events: a type is dealt with, a rule has a match, a
    rule is dealt with, the pass ends.  A reading of them (`Event.Weighs`) comes to
    - a multiple of the instructions and of the diagnostics for a block
      (`Block.total_events`),
    - a multiple of the registrations for the expansion of a rule
      (`Expansion.total_events`),
    and so for the whole log (`Resolution.total_whole`).
-/

namespace InjectionPlan

variable {s : Snapshot} {d : Declaration} {settings : Settings} {sched : Schedule} {h : Host}

/-! ### Reading numbers off events -/

namespace Event

/-- The number in a field of the event, if there is one. -/
def number? (e : Event) (field : String) : Option Nat :=
  match e.fields.lookup field with
  | some (.count n) => some n
  | _ => none

/-- The number in a field of an event with the message, 0 for all other events. -/
def numberIn (message field : String) (e : Event) : Nat :=
  if e.message == message then (e.number? field).getD 0 else 0

/-- 1 for an event with the message, 0 for all other events. -/
def occurrence (message : String) (e : Event) : Nat := if e.message == message then 1 else 0

/-- The sum of what is read off each event. -/
def total (read : Event → Nat) : List Event → Nat
  | [] => 0
  | e :: es => read e + total read es

theorem total_append (read : Event → Nat) (xs ys : List Event) :
    total read (xs ++ ys) = total read xs + total read ys := by
  induction xs with
  | nil => exact (Nat.zero_add _).symm
  | cons x xs ih => rw [List.cons_append, total, total, ih, Nat.add_assoc]

/-- Events in proportion to the items of lists are in proportion to the items of them all. -/
theorem total_flatMap {α β : Type} {read : Event → Nat} {c : Nat} {xs : List α}
    {f : α → List Event} {g : α → List β}
    (h : ∀ x ∈ xs, total read (f x) = c * (g x).length) :
    total read (xs.flatMap f) = c * (xs.flatMap g).length := by
  induction xs with
  | nil => rfl
  | cons x xs ih =>
    obtain ⟨hx, hxs⟩ := List.forall_mem_cons.1 h
    rw [List.flatMap_cons, List.flatMap_cons, total_append, List.length_append, hx, ih hxs,
      Nat.mul_add]

theorem total_occurrence (message : String) (es : List Event) :
    total (occurrence message) es = es.countP (·.message == message) := by
  induction es with
  | nil => rfl
  | cons e es ih => rw [total, ih, List.countP_cons, occurrence, Nat.add_comm]

/-! ### Readings that leave out the details -/

/-- The events that only tell details. -/
def isDetail : Event → Bool
  | typeResolved .. | ruleMatched .. | ruleExpanded .. | passCompleted .. => false
  | _ => true

/-- How much is read for each kind of event that tells more than details. -/
structure Weights where
  /-- For an instruction of a resolved type. -/
  instruction : Nat
  /-- For a diagnostic of a resolved type. -/
  diagnostic : Nat
  /-- For a match of a rule. -/
  hit : Nat
  /-- For a registration of an expanded rule. -/
  registration : Nat
  /-- For the end of a pass. -/
  ending : Nat

/-- The reading leaves out the details and goes by the weights. -/
structure Weighs (read : Event → Nat) (w : Weights) : Prop where
  detail : ∀ e : Event, e.isDetail = true → read e = 0
  typeResolved : ∀ type instructions diagnostics,
    read (typeResolved type instructions diagnostics) =
      w.instruction * instructions + w.diagnostic * diagnostics
  ruleMatched : ∀ service implementation, read (ruleMatched service implementation) = w.hit
  ruleExpanded : ∀ contract isOpen lifetime registrations,
    read (ruleExpanded contract isOpen lifetime registrations) = w.registration * registrations
  passCompleted : ∀ moduleName instructions diagnostics,
    read (passCompleted moduleName instructions diagnostics) = w.ending

/-- The messages of the events that tell more than details. -/
def accountMessages : List String :=
  ["Resolved type", "Bulk registration match", "Expanded RegisterAll marker",
    "Resolution pass complete"]

theorem message_not_mem_of_isDetail {e : Event} (he : e.isDetail = true) :
    e.message ∉ accountMessages := by
  cases e <;> simp_all [isDetail, message, accountMessages]

theorem message_ne_of_isDetail {e : Event} {m : String} (he : e.isDetail = true)
    (hm : m ∈ accountMessages) : (e.message == m) = false := by
  apply beq_false_of_ne
  rintro rfl
  exact message_not_mem_of_isDetail he hm

theorem numberIn_of_isDetail {e : Event} {m field : String} (hm : m ∈ accountMessages)
    (he : e.isDetail = true) : numberIn m field e = 0 := by
  rw [numberIn, message_ne_of_isDetail he hm]
  rfl

theorem occurrence_of_isDetail {e : Event} {m : String} (hm : m ∈ accountMessages)
    (he : e.isDetail = true) : occurrence m e = 0 := by
  rw [occurrence, message_ne_of_isDetail he hm]
  rfl

theorem weighs_instructions :
    Weighs (numberIn "Resolved type" "descriptors") ⟨1, 0, 0, 0, 0⟩ := by
  constructor
  · exact fun _ => numberIn_of_isDetail (by decide)
  all_goals simp [numberIn, message, number?, fields, List.lookup_cons]

theorem weighs_diagnostics :
    Weighs (numberIn "Resolved type" "diagnostics") ⟨0, 1, 0, 0, 0⟩ := by
  constructor
  · exact fun _ => numberIn_of_isDetail (by decide)
  all_goals simp [numberIn, message, number?, fields, List.lookup_cons]

theorem weighs_registrations :
    Weighs (numberIn "Expanded RegisterAll marker" "registrations") ⟨0, 0, 0, 1, 0⟩ := by
  constructor
  · exact fun _ => numberIn_of_isDetail (by decide)
  all_goals simp [numberIn, message, number?, fields, List.lookup_cons]

theorem weighs_matches : Weighs (occurrence "Bulk registration match") ⟨0, 0, 1, 0, 0⟩ := by
  constructor
  · exact fun _ => occurrence_of_isDetail (by decide)
  all_goals simp [occurrence, message]

theorem weighs_completions :
    Weighs (occurrence "Resolution pass complete") ⟨0, 0, 0, 0, 1⟩ := by
  constructor
  · exact fun _ => occurrence_of_isDetail (by decide)
  all_goals simp [occurrence, message]

theorem Weighs.total_details {read : Event → Nat} {w : Weights} (hw : Weighs read w)
    {es : List Event} (hes : ∀ e ∈ es, e.isDetail = true) : total read es = 0 := by
  induction es with
  | nil => rfl
  | cons e es ih =>
    obtain ⟨he, hes⟩ := List.forall_mem_cons.1 hes
    rw [total, hw.detail e he, ih hes]

end Event

open Event (Weights Weighs total)

namespace Resolution

/-- What a pass comes to if it is not aborted. -/
def whole (sched : Schedule) (settings : Settings) (s : Snapshot) : Resolution :=
  completed (blocks sched settings s) (Expansion.all settings.host s)

/-- The event that ends a pass. -/
def doneEvent (r : Resolution) (s : Snapshot) : Event :=
  .passCompleted s.name r.instructions.length r.diagnostics.length

/-- A pass that is not aborted tells that it begins, what becomes of the types and of the
rules, and that it ends. -/
theorem journal_whole (sched : Schedule) (settings : Settings) (s : Snapshot) :
    (whole sched settings s).journal settings s =
      startEvent settings s ::
        (((blocks sched settings s).flatMap (·.events) ++
          (Expansion.all settings.host s).flatMap (·.events)) ++
          [(whole sched settings s).doneEvent s]) := by
  rw [List.append_assoc]
  rfl

end Resolution

/-! ### Details of a block and of a search -/

theorem Declaration.isDetail_of_mem_decorationEvents {e : Event}
    (he : e ∈ d.decorationEvents h) : e.isDetail = true := by
  unfold decorationEvents at he
  split at he
  · split at he
    · obtain rfl := List.mem_singleton.1 he
      rfl
    · cases he
  · cases he

theorem InterfaceWalk.isDetail_of_mem_events {walk : InterfaceWalk} {e : Event}
    (he : e ∈ walk.events d) : e.isDetail = true := by
  obtain ⟨t, -, rfl⟩ := List.mem_map.1 he
  rfl

theorem BaseChain.isDetail_of_mem_events {chain : BaseChain} {e : Event}
    (he : e ∈ chain.events d) : e.isDetail = true := by
  obtain ⟨t, -, rfl⟩ := List.mem_map.1 he
  rfl

theorem Settlement.isDetail_of_mem_events {c : HookCall} {e : Event}
    (he : e ∈ (of h s d c).events) : e.isDetail = true := by
  unfold of at he
  split at he
  · cases he
  · split at he
    · cases he
    · -- a source: what is told of the search for its contract, then of its being dropped
      rcases List.mem_append.1 he with he | he
      · split at he
        · exact InterfaceWalk.isDetail_of_mem_events he
        · cases he
      · split at he
        · cases he
        · obtain rfl := List.mem_singleton.1 he
          rfl

theorem Rule.isDetail_of_mem_searchEvents {r : Rule} {e : Event}
    (he : e ∈ r.searchEvents s d) : e.isDetail = true := by
  rcases List.mem_append.1 he with he | he
  · exact InterfaceWalk.isDetail_of_mem_events he
  · split at he
    · exact BaseChain.isDetail_of_mem_events he
    · cases he

/-- A block tells details, and then how much it holds. -/
theorem Block.exists_events_full (settings : Settings) (s : Snapshot) (d : Declaration) :
    ∃ details : List Event, (∀ e ∈ details, e.isDetail = true) ∧
      (full settings s d).events = details ++
        [.typeResolved d.qualifiedName (full settings s d).instructions.length
          (full settings s d).diagnostics.length] := by
  refine ⟨_, ?_, rfl⟩
  intro e he
  -- registrations, the decoration, the checks of the hooks and what becomes of them
  simp only [List.mem_append] at he
  rcases he with ((he | he) | he) | he
  · obtain ⟨reg, -, rfl⟩ := List.mem_map.1 he
    rfl
  · exact Declaration.isDetail_of_mem_decorationEvents he
  · obtain ⟨c, -, rfl⟩ := List.mem_map.1 he
    rfl
  · obtain ⟨settlement, hs, he⟩ := List.mem_flatMap.1 he
    obtain ⟨c, -, rfl⟩ := List.mem_map.1 hs
    exact Settlement.isDetail_of_mem_events he

/-! ### What the parts of a log add up to -/

section Readings

variable {read : Event → Nat} {w : Weights} (hw : Weighs read w)
include hw

theorem Block.total_events :
    total read (of settings s d).events =
      w.instruction * (of settings s d).instructions.length +
        w.diagnostic * (of settings s d).diagnostics.length := by
  unfold of
  split
  · -- a type without markers is passed over in silence
    rfl
  · obtain ⟨details, hdetails, hevents⟩ := exists_events_full settings s d
    rw [hevents, Event.total_append, hw.total_details hdetails, Nat.zero_add, Event.total,
      hw.typeResolved]
    rfl

/-- Each match that can serve is told as one, and the other matches are details. -/
theorem Rule.total_matchEvents (r : Rule) (ts : List TypeExpr) :
    total read (ts.map (matchEvent d)) = w.hit * (ts.filterMap (r.registration? d)).length := by
  induction ts with
  | nil => rfl
  | cons t ts ih =>
    rw [List.map_cons, Event.total, ih]
    by_cases ht : d.canServe t = true
    · have hreg : r.registration? d t = some (r.registration d t) := by
        rw [registration?, if_pos ht]
      rw [matchEvent, if_pos ht, hw.ruleMatched, List.filterMap_cons_some hreg, List.length_cons,
        Nat.mul_succ, Nat.add_comm]
    · have hreg : r.registration? d t = none := by rw [registration?, if_neg ht]
      rw [matchEvent, if_neg ht, hw.detail _ rfl, List.filterMap_cons_none hreg, Nat.zero_add]

theorem Rule.total_eventsOf (r : Rule) :
    total read (r.eventsOf h s d) = w.hit * (r.registrationsOf h s d).length := by
  have hsearch : total read (r.searchEvents s d) = 0 :=
    hw.total_details fun _ he => isDetail_of_mem_searchEvents he
  rw [eventsOf, Event.total_append, hsearch, Nat.zero_add, r.total_matchEvents hw]
  rfl

theorem Expansion.total_events (m : Marker) :
    total read (ofMarker h s m).events =
      (w.hit + w.registration) * (ofMarker h s m).registrations.length := by
  unfold ofMarker
  split
  · next r _ =>
    have hcandidates :
        total read ((r.candidates s).flatMap (r.eventsOf h s)) =
          w.hit * (ofRule h s r).registrations.length :=
      Event.total_flatMap fun d _ => r.total_eventsOf hw
    rw [ofRule, Event.total_append, hcandidates, Event.total, hw.ruleExpanded, Nat.add_mul]
    rfl
  · exact hw.detail _ rfl

/-- What a completed pass tells between its beginning and its end. -/
theorem Resolution.total_told (sched : Schedule) (settings : Settings) (s : Snapshot) :
    total read ((blocks sched settings s).flatMap (·.events) ++
        (Expansion.all settings.host s).flatMap (·.events)) =
      w.instruction * ((blocks sched settings s).flatMap (·.instructions)).length +
        w.diagnostic * ((blocks sched settings s).flatMap (·.diagnostics)).length +
        (w.hit + w.registration) *
          ((Expansion.all settings.host s).flatMap (·.registrations)).length := by
  have hrules : total read ((Expansion.all settings.host s).flatMap (·.events)) =
      (w.hit + w.registration) *
        ((Expansion.all settings.host s).flatMap (·.registrations)).length := by
    apply Event.total_flatMap
    intro x hx
    obtain ⟨m, -, rfl⟩ := Expansion.mem_all_iff.1 hx
    exact Expansion.total_events hw m
  rw [Event.total_append, hrules, blocks_eq_map, List.flatMap_map, List.flatMap_map,
    List.flatMap_map]
  congr 1
  -- along the types, block by block
  induction s.types with
  | nil => rfl
  | cons d ds ih =>
    simp only [List.flatMap_cons, List.length_append]
    rw [Event.total_append, Block.total_events hw, ih]
    simp only [Nat.mul_add]
    omega

/-- What a reading of the log of a completed pass comes to. -/
theorem Resolution.total_whole (sched : Schedule) (settings : Settings) (s : Snapshot) :
    total read ((whole sched settings s).journal settings s) =
      w.instruction * ((blocks sched settings s).flatMap (·.instructions)).length +
        w.diagnostic * ((blocks sched settings s).flatMap (·.diagnostics)).length +
        (w.hit + w.registration) *
          ((Expansion.all settings.host s).flatMap (·.registrations)).length +
        w.ending := by
  have hstart : read (startEvent settings s) = 0 := hw.detail _ rfl
  have hdone : total read [(whole sched settings s).doneEvent s] = w.ending :=
    hw.passCompleted s.name _ _
  rw [journal_whole, Event.total, hstart, Nat.zero_add, Event.total_append, total_told hw,
    hdone]

end Readings

/-! ### The log of a pass -/

open Event (numberIn)

/-- The log of a completed pass ends once, with the numbers of instructions and of
diagnostics in the plan, and these are what it tells of the types and of the rules. -/
structure Plan.Balances (p : Plan) (log : List Event) (done : Event) : Prop where
  /-- The last event tells that the pass ends. -/
  ends : done.message = "Resolution pass complete"
  /-- No other event does. -/
  ends_once : log.countP (·.message == "Resolution pass complete") = 1
  /-- It tells how many instructions there are. -/
  instructions : done.number? "descriptors" = some p.instructions.length
  /-- It tells how many diagnostics there are. -/
  diagnostics : done.number? "diagnostics" = some p.report.size
  /-- Each instruction comes from a type or from a rule. -/
  instructions_eq : p.instructions.length =
    total (numberIn "Resolved type" "descriptors") log +
      total (numberIn "Expanded RegisterAll marker" "registrations") log
  /-- Each diagnostic comes from a type. -/
  diagnostics_eq : p.report.size = total (numberIn "Resolved type" "diagnostics") log
  /-- Each registration of a rule comes from a match. -/
  matches_eq : log.countP (·.message == "Bulk registration match") =
    total (numberIn "Expanded RegisterAll marker" "registrations") log

/-- One worker tells everything itself. -/
theorem Resolution.leadJournal_of_single (hsingle : settings.parallel = false) (r : Resolution) :
    r.leadJournal settings s = r.journal settings s := by
  have hshared : isShared settings s = false := by rw [isShared, hsingle, Bool.false_and]
  rw [leadJournal, hshared]
  rfl

/-- The log of a completed pass balances with its plan. -/
theorem Resolution.balances_whole (sched : Schedule) (settings : Settings) (s : Snapshot) :
    ((whole sched settings s).plan settings s).Balances
      ((whole sched settings s).journal settings s) ((whole sched settings s).doneEvent s) := by
  have hends := total_whole Event.weighs_completions sched settings s
  have hinstructions := total_whole Event.weighs_instructions sched settings s
  have hdiagnostics := total_whole Event.weighs_diagnostics sched settings s
  have hregistrations := total_whole Event.weighs_registrations sched settings s
  have hmatches := total_whole Event.weighs_matches sched settings s
  -- each reading has weight one for one kind of number and zero for the others
  rw [Event.total_occurrence] at hends hmatches
  simp only [Nat.one_mul, Nat.zero_mul, Nat.zero_add, Nat.add_zero] at hends hmatches
  simp only [Nat.one_mul, Nat.zero_mul, Nat.zero_add, Nat.add_zero] at hinstructions hdiagnostics
  simp only [Nat.one_mul, Nat.zero_mul, Nat.zero_add, Nat.add_zero] at hregistrations
  have hlength : (whole sched settings s).instructions.length =
      ((blocks sched settings s).flatMap (·.instructions)).length +
        ((Expansion.all settings.host s).flatMap (·.registrations)).length := by
    rw [whole, instructions, List.length_append, List.length_map]
  exact
    { ends := rfl
      ends_once := hends
      instructions := rfl
      diagnostics := rfl
      instructions_eq := by
        rw [hinstructions, hregistrations]
        exact hlength
      diagnostics_eq := hdiagnostics.symm
      matches_eq := hmatches.trans hregistrations.symm }

/-- A pass by one worker tells that it begins.  If it is aborted, it then tells at which
root, and nothing else.  If it is not, it ends with the numbers of instructions and of
diagnostics in the plan, and the log balances with the plan. -/
theorem journal_accounts (sched : Schedule) (settings : Settings) (s : Snapshot)
    (hsingle : settings.parallel = false) :
    ((settings.planBy sched s).isAborted = true →
      ∃ root, s.FirstRoot settings.host root ∧ root.isPartial = false ∧
        (Resolution.of sched settings s).leadJournal settings s =
          [.passStarted s.name settings.host.name s.types.length s.rules.length,
            .passAborted root.qualifiedName]) ∧
    ((settings.planBy sched s).isAborted = false →
      ∃ told done, (Resolution.of sched settings s).leadJournal settings s =
          .passStarted s.name settings.host.name s.types.length s.rules.length ::
            (told ++ [done]) ∧
        (settings.planBy sched s).Balances
          ((Resolution.of sched settings s).leadJournal settings s) done) := by
  rw [Resolution.leadJournal_of_single hsingle]
  constructor
  · intro haborted
    obtain ⟨root, hroot, hpartial, heq⟩ := Resolution.of_eq_aborted haborted
    refine ⟨root, Snapshot.userRoot?_eq_some_iff.1 hroot, hpartial, ?_⟩
    rw [heq]
    rfl
  · intro hpass
    rw [Settings.planBy, Resolution.of_eq_completed hpass]
    have hlog := Resolution.journal_whole sched settings s
    exact ⟨_, _, hlog, Resolution.balances_whole sched settings s⟩

/-- For a host with roots the log ends with the root, for one without roots it balances. -/
theorem LockedRoot.told :
    (Settings.forHost .lightInject).parallel = false ∧
      (Settings.forHost .microsoft).parallel = false ∧
      (∃ root, snapshot.FirstRoot .lightInject root ∧ root.isPartial = false ∧
        (Resolution.of .inOrder (.forHost .lightInject) snapshot).leadJournal
            (.forHost .lightInject) snapshot =
          [.passStarted "App.Core" "LightInject" 4 1, .passAborted root.qualifiedName]) ∧
      ((Settings.forHost .microsoft).planBy .inOrder snapshot).instructions.length = 2 ∧
      ∃ told done, (Resolution.of .inOrder (.forHost .microsoft) snapshot).leadJournal
          (.forHost .microsoft) snapshot =
            .passStarted "App.Core" "Microsoft.Extensions.DependencyInjection" 4 1 ::
              (told ++ [done]) ∧
        ((Settings.forHost .microsoft).planBy .inOrder snapshot).Balances
          ((Resolution.of .inOrder (.forHost .microsoft) snapshot).leadJournal
            (.forHost .microsoft) snapshot) done := by
  have haborted : ((Settings.forHost .lightInject).planBy .inOrder snapshot).isAborted = true := by
    decide
  have hcompleted : ((Settings.forHost .microsoft).planBy .inOrder snapshot).isAborted = false :=
    Settings.isAborted_of_no_root rfl
  refine ⟨rfl, rfl, ?_, by decide +kernel, ?_⟩
  · exact (journal_accounts .inOrder (.forHost .lightInject) snapshot rfl).1 haborted
  · exact (journal_accounts .inOrder (.forHost .microsoft) snapshot rfl).2 hcompleted

end InjectionPlan
