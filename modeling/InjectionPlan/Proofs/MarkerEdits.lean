import InjectionPlan.Proofs.Outcome
import InjectionPlan.Proofs.Skeleton

/-! # Editing the methods and markers of a type

    A module is planned again after the methods or the markers of one type were edited.
    The edit changes what that type itself adds to the plan and nothing else
    (`planBy_of_differsAt`).

    A plan is put together from the shares of the types and of the bulk rules
    (`Settings.planBy_eq_shares`).  The skeletons of the types, which no such edit changes,
    decide
    - which type is the root, and so whether the pass is aborted and there are shares at
      all (`SameSkeletons.lockedRoot?_eq`),
    - what the module adds for a given type (`SameSkeletons.share_eq`),
    - what the rules add (`SameSkeletons.bulkShare_eq`).
-/

namespace InjectionPlan

variable {s s' : Snapshot} {settings : Settings} {sched : Schedule} {h : Host}
  {before after ds ds' : List Declaration} {t t' : Declaration}

open Declaration (ReadsSkeleton)

/-! ### The shares of a plan -/

namespace Settings

/-- The root at which the pass is aborted. -/
def lockedRoot? (settings : Settings) (s : Snapshot) : Option Declaration :=
  (s.userRoot? settings.host).filter (!·.isPartial)

/-- What a type adds to the plan: its block, or nothing if the pass is aborted. -/
def share (settings : Settings) (s : Snapshot) (d : Declaration) : Block :=
  if (settings.lockedRoot? s).isSome then .empty else .of settings s d

/-- The instructions that several types add. -/
def instructionsOf (settings : Settings) (s : Snapshot) (ds : List Declaration) :
    List Instruction := ds.flatMap fun d => (settings.share s d).instructions

/-- The diagnostics that several types add. -/
def diagnosticsOf (settings : Settings) (s : Snapshot) (ds : List Declaration) :
    List Diagnostic := ds.flatMap fun d => (settings.share s d).diagnostics

/-- What the bulk rules add to the plan: nothing if the pass is aborted. -/
def bulkShare (settings : Settings) (s : Snapshot) : List Instruction :=
  if (settings.lockedRoot? s).isSome then []
  else ((Expansion.all settings.host s).flatMap (·.registrations)).map .register

/-- What is said of the root: nothing unless the pass is aborted. -/
def rootErrors (settings : Settings) (s : Snapshot) : List Diagnostic :=
  ((settings.lockedRoot? s).map Resolution.rootError).toList

theorem instructionsOf_append_cons (settings : Settings) (s : Snapshot)
    (before after : List Declaration) (d : Declaration) :
    settings.instructionsOf s (before ++ d :: after) =
      settings.instructionsOf s before ++ (settings.share s d).instructions ++
        settings.instructionsOf s after := by
  simp only [instructionsOf, List.flatMap_append, List.flatMap_cons, List.append_assoc]

theorem diagnosticsOf_append_cons (settings : Settings) (s : Snapshot)
    (before after : List Declaration) (d : Declaration) :
    settings.diagnosticsOf s (before ++ d :: after) =
      settings.diagnosticsOf s before ++ (settings.share s d).diagnostics ++
        settings.diagnosticsOf s after := by
  simp only [diagnosticsOf, List.flatMap_append, List.flatMap_cons, List.append_assoc]

/-- A plan holds the shares of the types, in the order of declaration, and that of the
bulk rules. -/
theorem planBy_eq_shares (sched : Schedule) (settings : Settings) (s : Snapshot) :
    (settings.planBy sched s).instructions =
        settings.instructionsOf s s.types ++ settings.bulkShare s ∧
      (settings.planBy sched s).report.records =
        settings.rootErrors s ++ settings.diagnosticsOf s s.types := by
  cases hroot : settings.lockedRoot? s with
  | some root =>
    have hof : Resolution.of sched settings s = .aborted root := by
      rw [lockedRoot?] at hroot
      rw [Resolution.of, hroot]
    simp [planBy, Resolution.plan, hof, Resolution.instructions, Resolution.diagnostics,
      instructionsOf, diagnosticsOf, share, bulkShare, rootErrors, hroot, Block.empty]
  | none =>
    have hof : Resolution.of sched settings s =
        .completed (s.types.map (Block.of settings s)) (Expansion.all settings.host s) := by
      rw [lockedRoot?] at hroot
      rw [Resolution.of, hroot, Resolution.blocks_eq_map]
    simp [planBy, Resolution.plan, hof, Resolution.instructions, Resolution.diagnostics,
      instructionsOf, diagnosticsOf, share, bulkShare, rootErrors, hroot, List.flatMap_map]

theorem isAborted_planBy_eq :
    (settings.planBy sched s).isAborted = (settings.lockedRoot? s).isSome := by
  rw [Bool.eq_iff_iff, isAborted_planBy_iff, Option.isSome_iff_exists]
  apply exists_congr
  intro root
  rw [lockedRoot?, Option.filter_eq_some_iff, Bool.not_eq_true']

end Settings

/-! ### Types with the same skeletons -/

section Lists

variable (hskel : ds.map Declaration.skeleton = ds'.map Declaration.skeleton)
include hskel

theorem Declaration.ReadsSkeleton.map_eq {α : Type} {f : Declaration → α} (hf : ReadsSkeleton f) :
    ds.map f = ds'.map f := by
  have hcomp : f = f ∘ Declaration.skeleton := funext hf
  rw [hcomp, ← List.map_map, ← List.map_map, hskel]

/-- A test of skeletons finds the same skeleton first. -/
theorem Declaration.ReadsSkeleton.find?_eq {p : Declaration → Bool} (hp : ReadsSkeleton p) :
    (ds.find? p).map Declaration.skeleton = (ds'.find? p).map Declaration.skeleton := by
  have hcomp : p = p ∘ Declaration.skeleton := funext hp
  rw [hcomp, ← List.find?_map, ← List.find?_map, hskel]

theorem Declaration.ReadsSkeleton.flatMap_filter_eq {α : Type} {p : Declaration → Bool}
    {f : Declaration → List α} (hp : ReadsSkeleton p) (hf : ReadsSkeleton f) :
    (ds.filter p).flatMap f = (ds'.filter p).flatMap f := by
  have hcomp : p = p ∘ Declaration.skeleton := funext hp
  have hmap (ds : List Declaration) :
      (ds.filter p).flatMap f = ((ds.map Declaration.skeleton).filter p).flatMap f := by
    rw [List.filter_map, ← hcomp, List.flatMap_map]
    exact congrArg ((ds.filter p).flatMap ·) (funext hf)
  rw [hmap ds, hmap ds', hskel]

end Lists

namespace Snapshot

/-- The modules differ at most in the methods and markers of their types. -/
structure SameSkeletons (s s' : Snapshot) : Prop where
  name : s.name = s'.name
  rules : s.rules = s'.rules
  types : s.types.map Declaration.skeleton = s'.types.map Declaration.skeleton

namespace SameSkeletons

variable (hs : s.SameSkeletons s')
include hs

theorem keys_eq : s.keys = s'.keys := ReadsSkeleton.map_eq hs.types fun _ => rfl

theorem looksLike : s.LooksLike s' := by
  intro t
  -- both indexes lead to one position, and equal skeletons stand there
  have hindex : s.index.Agrees s'.keys := hs.keys_eq ▸ s.agrees
  have hposition : s.index.position? t.familyName = s'.index.position? t.familyName :=
    hindex.position?_eq s'.agrees t.familyName
  rw [find?, find?, hposition, Option.map_bind, Option.map_bind]
  congr 1
  funext i
  rw [Function.comp_apply, Function.comp_apply, ← List.getElem?_map, ← List.getElem?_map,
    hs.types]

/-! #### The root -/

theorem userRoot?_eq (h : Host) :
    (s.userRoot? h).map Declaration.skeleton = (s'.userRoot? h).map Declaration.skeleton := by
  rw [userRoot?, userRoot?, Option.map_bind, Option.map_bind]
  congr 1
  funext n
  exact ReadsSkeleton.find?_eq hs.types fun _ => rfl

theorem isSome_userRoot?_eq (h : Host) : (s.userRoot? h).isSome = (s'.userRoot? h).isSome := by
  rw [← Option.isSome_map (f := Declaration.skeleton), hs.userRoot?_eq, Option.isSome_map]

theorem planNamespace_eq (h : Host) : s.planNamespace h = s'.planNamespace h := by
  have hroot : (s.userRoot? h).map Declaration.ns = (s'.userRoot? h).map Declaration.ns := by
    have hcomp : Declaration.ns = Declaration.ns ∘ Declaration.skeleton := rfl
    rw [hcomp, ← Option.map_map, ← Option.map_map, hs.userRoot?_eq]
  have hns : s.types.map Declaration.ns = s'.types.map Declaration.ns :=
    ReadsSkeleton.map_eq hs.types fun _ => rfl
  rw [planNamespace, planNamespace, hroot, smallestNamespace?, smallestNamespace?, hns, hs.name]

theorem lockedRoot?_eq (settings : Settings) :
    (settings.lockedRoot? s).map Declaration.skeleton =
      (settings.lockedRoot? s').map Declaration.skeleton := by
  have hfilter (r : Option Declaration) : (r.filter (!·.isPartial)).map Declaration.skeleton =
      (r.map Declaration.skeleton).filter (!·.isPartial) := by
    rw [Option.filter_map]
    rfl
  rw [Settings.lockedRoot?, Settings.lockedRoot?, hfilter, hfilter, hs.userRoot?_eq]

theorem isSome_lockedRoot?_eq (settings : Settings) :
    (settings.lockedRoot? s).isSome = (settings.lockedRoot? s').isSome := by
  rw [← Option.isSome_map (f := Declaration.skeleton), hs.lockedRoot?_eq, Option.isSome_map]

theorem rootErrors_eq (settings : Settings) : settings.rootErrors s = settings.rootErrors s' := by
  -- the error names the root and its place, which the skeleton has too
  have hcomp : Resolution.rootError = Resolution.rootError ∘ Declaration.skeleton := rfl
  rw [Settings.rootErrors, Settings.rootErrors, hcomp, ← Option.map_map, ← Option.map_map,
    hs.lockedRoot?_eq]

/-! #### The shares -/

/-- A type adds the same to the plan in each module. -/
theorem share_eq (settings : Settings) : settings.share s = settings.share s' := by
  funext d
  rw [Settings.share, Settings.share, hs.isSome_lockedRoot?_eq, Block.of_congr hs.looksLike]

/-- A marker registers the same types, under the same names. -/
theorem bulkRegistrations_eq (m : Marker) :
    (Expansion.ofMarker h s m).registrations = (Expansion.ofMarker h s' m).registrations := by
  unfold Expansion.ofMarker
  cases Rule.ofMarker? m with
  | none => rfl
  | some r =>
    have hrule : r.registrationsOf h s = r.registrationsOf h s' :=
      funext fun _ => r.registrationsOf_congr hs.looksLike
    show (r.candidates s).flatMap (r.registrationsOf h s) =
      (r.candidates s').flatMap (r.registrationsOf h s')
    rw [hrule]
    exact ReadsSkeleton.flatMap_filter_eq hs.types (fun _ => rfl) r.readsSkeleton_registrationsOf

theorem bulkShare_eq (settings : Settings) : settings.bulkShare s = settings.bulkShare s' := by
  have hexpansions : (Expansion.all settings.host s).flatMap (·.registrations) =
      (Expansion.all settings.host s').flatMap (·.registrations) := by
    rw [Expansion.all, Expansion.all, hs.rules, List.flatMap_map, List.flatMap_map]
    exact congrArg (List.flatMap · _) (funext hs.bulkRegistrations_eq)
  rw [Settings.bulkShare, Settings.bulkShare, hs.isSome_lockedRoot?_eq, hexpansions]

end SameSkeletons

/-! ### One edited type -/

/-- The modules differ at most in the methods and markers of one type: `t` stands in one of
them where `t'` stands in the other. -/
structure DiffersAt (s s' : Snapshot) (before : List Declaration) (t t' : Declaration)
    (after : List Declaration) : Prop where
  name : s.name = s'.name
  rules : s.rules = s'.rules
  types : s.types = before ++ t :: after
  types' : s'.types = before ++ t' :: after
  skeleton : t.skeleton = t'.skeleton

theorem DiffersAt.sameSkeletons (hd : s.DiffersAt s' before t t' after) : s.SameSkeletons s' where
  name := hd.name
  rules := hd.rules
  types := by
    rw [hd.types, hd.types', List.map_append, List.map_append, List.map_cons, List.map_cons,
      hd.skeleton]

end Snapshot

/-- Whichever methods and markers one type of a module has, the rest of the plan is the
same.  It stands in the same namespace, extends the same root and is aborted for the same
reason, if it is.  All that the other types and the bulk rules add stays as it is and where
it is, and between it stands what the type itself adds. -/
theorem planBy_of_differsAt (sched sched' : Schedule) (settings : Settings)
    (hd : s.DiffersAt s' before t t' after) :
    let plan := settings.planBy sched s
    let plan' := settings.planBy sched' s'
    (plan.ns = plan'.ns ∧ plan.extendsRoot = plan'.extendsRoot ∧
      plan.entryPoint = plan'.entryPoint ∧ plan.isAborted = plan'.isAborted) ∧
    (plan.instructions =
        settings.instructionsOf s before ++ (settings.share s t).instructions ++
          (settings.instructionsOf s after ++ settings.bulkShare s) ∧
      plan'.instructions =
        settings.instructionsOf s before ++ (settings.share s' t').instructions ++
          (settings.instructionsOf s after ++ settings.bulkShare s)) ∧
    plan.report.records =
        settings.rootErrors s ++ settings.diagnosticsOf s before ++
          (settings.share s t).diagnostics ++ settings.diagnosticsOf s after ∧
      plan'.report.records =
        settings.rootErrors s ++ settings.diagnosticsOf s before ++
          (settings.share s' t').diagnostics ++ settings.diagnosticsOf s after := by
  intro plan plan'
  have hs : s.SameSkeletons s' := hd.sameSkeletons
  have hentry : s.entryPoint = s'.entryPoint := by
    rw [Snapshot.entryPoint, Snapshot.entryPoint, hs.name]
  have haborted : plan.isAborted = plan'.isAborted := by
    rw [Settings.isAborted_planBy_eq, Settings.isAborted_planBy_eq, hs.isSome_lockedRoot?_eq]
  -- the other types add to the second plan what they add to the first
  have hinstructions : settings.instructionsOf s = settings.instructionsOf s' := by
    funext ds
    rw [Settings.instructionsOf, Settings.instructionsOf, hs.share_eq]
  have hdiagnostics : settings.diagnosticsOf s = settings.diagnosticsOf s' := by
    funext ds
    rw [Settings.diagnosticsOf, Settings.diagnosticsOf, hs.share_eq]
  obtain ⟨hplan, hrecords⟩ := Settings.planBy_eq_shares sched settings s
  obtain ⟨hplan', hrecords'⟩ := Settings.planBy_eq_shares sched' settings s'
  refine ⟨⟨hs.planNamespace_eq settings.host, hs.isSome_userRoot?_eq settings.host, hentry,
    haborted⟩, ⟨?_, ?_⟩, ?_, ?_⟩
  · rw [hplan, hd.types, Settings.instructionsOf_append_cons, List.append_assoc]
  · rw [hplan', hd.types', Settings.instructionsOf_append_cons, List.append_assoc,
      hinstructions, hs.bulkShare_eq]
  · rw [hrecords, hd.types, Settings.diagnosticsOf_append_cons]
    simp only [List.append_assoc]
  · rw [hrecords', hd.types', Settings.diagnosticsOf_append_cons, hdiagnostics,
      hs.rootErrors_eq]
    simp only [List.append_assoc]

namespace Retouched

open Showcase (cls hook interfaceRef)

/-- The contract of composition roots. -/
def rootContract : TypeExpr := .plain (interfaceRef "LightInject" "ICompositionRoot")

/-- A class with the contract. -/
def wiring : Declaration := { cls "App" "Wiring" with interfaces := [rootContract] }

/-- The class, registered as itself and with a broken hook. -/
def markedWiring : Declaration :=
  { wiring with
    markers := [(Marker.bare .register).edits [.contract (.plain ⟨"App", "Wiring", .classType⟩)]]
    methods := [hook "Configure" false] }

/-- A source of registrations that has the contract from the class. -/
def startup : Declaration :=
  { cls "App" "Startup" with
    base := some (.plain ⟨"App", "Wiring", .classType⟩)
    methods :=
      [{ hook "Compose" false with
        markers := [(Marker.bare .registrationExtension).edits [.compositionSource]] }] }

/-- A marked class in front. -/
def clock : Declaration := { cls "App" "Clock" with markers := [.bare .register] }

/-- A module in which the source and a bulk rule look at the class. -/
def draft (wiring : Declaration) : Draft :=
  ⟨"App", [clock, wiring, startup], [.bulkByPosition rootContract]⟩

/-- The module before the edit. -/
def snapshot : Snapshot where
  toDraft := draft wiring
  faultless := by decide

/-- The module after the edit. -/
def editedSnapshot : Snapshot where
  toDraft := draft markedWiring
  faultless := by decide

end Retouched

/-- The edit puts a registration and a diagnostic between what is planned for the clock and
what is planned for the source and by the rule. -/
theorem Retouched.edit_stays_in_place :
    let settings := Settings.forHost .lightInject
    let front := settings.instructionsOf snapshot [clock]
    let rear := settings.instructionsOf snapshot [startup] ++ settings.bulkShare snapshot
    let said := settings.rootErrors snapshot ++ settings.diagnosticsOf snapshot [clock]
    snapshot.DiffersAt editedSnapshot [clock] wiring markedWiring [startup] ∧
    (settings.planBy .inOrder snapshot).instructions = front ++ [] ++ rear ∧
    (settings.planBy .inOrder editedSnapshot).instructions =
      front ++ [.register ⟨none, "App.Wiring", .transient, none⟩] ++ rear ∧
    (settings.planBy .inOrder snapshot).report.records =
      said ++ [] ++ settings.diagnosticsOf snapshot [startup] ∧
    (settings.planBy .inOrder editedSnapshot).report.records =
      said ++ [.make .hookNotStatic ⟨"App.Wiring", some "Configure", none⟩
        ["Configure", "Wiring", "LightInject.IServiceRegistry"]] ++
        settings.diagnosticsOf snapshot [startup] := by
  intro settings front rear said
  have hedit : snapshot.DiffersAt editedSnapshot [clock] wiring markedWiring [startup] :=
    ⟨rfl, rfl, rfl, rfl, rfl⟩
  obtain ⟨-, ⟨hplan, hplan'⟩, hrecords, hrecords'⟩ :=
    planBy_of_differsAt .inOrder .inOrder settings hedit
  have hregistered : (settings.share editedSnapshot markedWiring).instructions =
      [.register ⟨none, "App.Wiring", .transient, none⟩] := by decide
  rw [hregistered] at hplan'
  exact ⟨hedit, hplan, hplan', hrecords, hrecords'⟩

end InjectionPlan
