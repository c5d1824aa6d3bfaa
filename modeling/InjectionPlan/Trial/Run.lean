import InjectionPlan.Marker.Edit
import InjectionPlan.Plan
import InjectionPlan.Trial.Script

/-! # Trials

    A trial makes the module that a script describes and runs two passes over it,
    which must come to the same plan.  Scripts can describe cycles of inheritance,
    references that cannot be resolved and malformed hooks.

    Only so much of a script is used: 32 types, 4 interfaces, 4 markers and 3 hooks
    of each, and 4 bulk rules.
-/

namespace InjectionPlan.Trial

/-- The item of a list of three that a number stands for. -/
def pick {α : Type} (a b c : α) (i : UInt8) : α :=
  match i.toNat % 3 with
  | 0 => a
  | 1 => b
  | _ => c

/-- The namespace that a number stands for. -/
def namespaceOf : UInt8 → String := pick "App" "App.Core" "Lib"

/-- The lifetime that a number stands for. -/
def lifetimeOf : UInt8 → Lifetime := pick .transient .perScope .singleton

/-- A letter or word and a number below `pool`. -/
def pooledName (word : String) (i : UInt8) (pool : Nat) : String := word ++ toString (i.toNat % pool)

/-- A class of the pools. -/
def classRef (i : UInt8) : TypeExpr := .plain ⟨namespaceOf i, pooledName "C" i 8, .classType⟩

/-- The reference that a script describes. -/
def RefScript.toTypeExpr : RefScript → TypeExpr
  | ofClass i => classRef i
  | ofInterface i => .plain ⟨namespaceOf i, pooledName "I" i 8, .interfaceType⟩
  | ofGeneric i arg => .apply ⟨namespaceOf i, pooledName "G" i 4, .interfaceType⟩ [classRef arg]
  | broken i => .plain ⟨"", pooledName "Missing" i 4, .broken⟩
  | rootObject => .plain ⟨"System", "Object", .classType⟩

/-- The edit that names the contract of a script, if it has one. -/
def contractEdits (contract : Option RefScript) : List Marker.Edit :=
  contract.toList.map fun r => .contract r.toTypeExpr

/-- The marker that a script describes. -/
def MarkerScript.toMarker : MarkerScript → Marker
  | register contract lifetime name =>
    (Marker.bare .register).edits <|
      [.lifetime (lifetimeOf lifetime)] ++ contractEdits contract ++
        name.toList.map fun n => .serviceName ("n" ++ toString n.toNat)
  | decorate contract => (Marker.bare .decorate).edits (contractEdits contract)

/-- The hook that a script describes, at a position among those of its type. -/
def MethodScript.toMethod (m : MethodScript) (position : Nat) : Method where
  name := "Configure" ++ toString position
  access := if m.isPublic then .everyone else .typeOnly
  isStatic := m.isStatic
  parameters :=
    (if m.takesRegistry then
      [⟨"services", .plain ⟨"Microsoft.Extensions.DependencyInjection", "IServiceCollection",
        .interfaceType⟩⟩]
    else []) ++
    (if m.takesMore then [⟨"extra", .plain ⟨"System", "String", .classType⟩⟩] else [])
  markers :=
    [(Marker.bare .registrationExtension).edits (if m.isSource then [.compositionSource] else [])]
  span := none

/-- The simple name of the type that a script describes: every sixteenth class is a
composition root. -/
def TypeScript.name (t : TypeScript) : String :=
  if t.isInterface then pooledName "I" t.id 8
  else if t.id.toNat % 16 = 15 then "CompositionRoot"
  else pooledName "C" t.id 8

/-- The type that a script describes. -/
def TypeScript.toDeclaration (t : TypeScript) : Declaration where
  ns := namespaceOf t.id
  name := t.name
  kind := if t.isInterface then .interfaceType else .classType
  params := []
  base := t.base.map RefScript.toTypeExpr
  interfaces := (t.interfaces.take 4).map RefScript.toTypeExpr
  declaredAbstract := t.isAbstract
  isPartial := t.isPartial
  methods := (t.methods.take 3).mapIdx fun i m => m.toMethod i
  markers := (t.markers.take 4).map MarkerScript.toMarker
  span := none

/-- The bulk rule that a script describes. -/
def RuleScript.toMarker (r : RuleScript) : Marker :=
  (Marker.bulkByPosition r.contract.toTypeExpr).edits <|
    [.positional (.lifetime (lifetimeOf r.lifetime))] ++
      if r.namesByType then [.includeServiceName] else []

/-- The module that a script describes. -/
def Script.toDraft (t : Script) : Draft where
  name := "Fuzz.Module"
  types := (t.types.take 32).map TypeScript.toDeclaration
  rules := (t.rules.take 4).map RuleScript.toMarker

/-- The settings that a script describes. -/
def Script.settings (t : Script) : Settings where
  host := if t.hasRoots then .lightInject else .microsoft
  warnsOnAmbiguity := t.warnsOnAmbiguity
  parallel := t.parallel

/-- What the leading worker tells of the two passes of a trial.  A module that
cannot be frozen is not tried. -/
def Script.run (t : Script) : List Event :=
  match t.toDraft.freeze with
  | .error _ => []
  | .ok s =>
    let told := (Resolution.of .inOrder t.settings s).leadJournal t.settings s
    told ++ told

/-- The trial in a string of bytes, if the string is long enough for one. -/
def run? (bytes : List UInt8) : Option (List Event) := (Script.ofBytes? bytes).map Script.run

end InjectionPlan.Trial
