import InjectionPlan.Contract
import InjectionPlan.Inheritance.InterfaceWalk
import InjectionPlan.Log.Event

/-! # Configuration methods of a type

    A method with a registration extension marker is a configuration method, or
    hook.  All structural rules are checked on each of them, and all faults are
    kept:
    - the module can call it,
    - it is static, unless its type is a source of registrations,
    - it has exactly one parameter,
    - its first parameter is the host's registry.

    A hook without a fault is called.  If it makes its type a source of
    registrations, the type must also implement the host's root contract.
-/

namespace InjectionPlan

/-- How a hook with this marker takes part. -/
def HookKind.ofMarker (m : Marker) : HookKind :=
  if m.isSource then .compositionSource else .staticCall

namespace Method

/-- Whether the first parameter is the host's registry. -/
def takesRegistry (m : Method) (h : Host) : Bool :=
  m.parameters.head?.any fun p => h.isRegistry p.type

/-- The structural rules that a hook breaks, in the order of the rules. -/
def hookFaults (m : Method) (h : Host) (kind : HookKind) : List Finding :=
  (if m.access.isCallable then [] else [.hookNotAccessible]) ++
  (if kind == .staticCall && !m.isStatic then [.hookNotStatic] else []) ++
  (if m.parameters.length == 1 then [] else [.hookParameterCount]) ++
  (if m.takesRegistry h then [] else [.hookParameterType])

end Method

namespace Declaration

/-- The call of a method of the type, with what is wrong with it. -/
def hookCall (d : Declaration) (h : Host) (m : Method) (kind : HookKind) : HookCall where
  typeName := d.qualifiedName
  methodName := m.name
  kind := kind
  errors := (m.hookFaults h kind).map fun f =>
    .make f (.ofMethod d m) [m.name, d.name, h.registryType]

/-- The call of a method, if it is marked as a hook. -/
def hookCall? (d : Declaration) (h : Host) (m : Method) : Option HookCall :=
  (m.marker? .registrationExtension).map fun k => d.hookCall h m (.ofMarker k)

/-- The calls of all hooks of the type, the faulty ones included. -/
def hookCalls (d : Declaration) (h : Host) : List HookCall :=
  d.methods.filterMap (d.hookCall? h)

/-- What is told of a hook. -/
def hookEvent (d : Declaration) (c : HookCall) : Event :=
  .hookChecked d.qualifiedName c.methodName c.kind c.errors.length

/-- The place of a method that is known by its name only: that of the first
method of the name. -/
def locationOfName (d : Declaration) (name : String) : Location :=
  match d.methods.find? (·.name == name) with
  | some m => .ofMethod d m
  | none => .ofType d

/-- The error that the type of a hook is no composition root. -/
def sourceError (d : Declaration) (h : Host) (c : HookCall) : Diagnostic :=
  .make .sourceNotRoot (d.locationOfName c.methodName)
    [c.methodName, d.name, h.rootContract.getD "a composition root contract"]

/-- Whether the type implements the host's root contract. -/
def isComposedBy (d : Declaration) (h : Host) (s : Snapshot) : Bool :=
  h.rootContract.any (s.implements d)

end Declaration

namespace InterfaceWalk

/-- What is told of the interface walk of a type. -/
def events (d : Declaration) (w : InterfaceWalk) : List Event :=
  w.stopped.map fun t => .recursionStopped d.qualifiedName t.qualifiedName

end InterfaceWalk

/-- What becomes of a hook. -/
structure Settlement where
  /-- The call, if it is made. -/
  call : Option HookCall
  /-- Why it is not made. -/
  diagnostics : List Diagnostic
  /-- What is told about it. -/
  events : List Event
deriving Repr

namespace Settlement

/-- The hook is called. -/
def accepted (c : HookCall) : Settlement := ⟨some c, [], []⟩

/-- A hook that breaks a structural rule is not called. -/
def rejected (c : HookCall) : Settlement := ⟨none, c.errors, []⟩

/-- A source of registrations that is no composition root is not called. -/
def dropped (h : Host) (d : Declaration) (c : HookCall) : Settlement :=
  ⟨none, [d.sourceError h c], [.sourceDropped d.qualifiedName c.methodName]⟩

/-- What becomes of the hook `c` of the type `d`. -/
def of (h : Host) (s : Snapshot) (d : Declaration) (c : HookCall) : Settlement :=
  if !c.isValid then rejected c
  else
    match c.kind with
    | .staticCall => accepted c
    | .compositionSource =>
      let outcome := if d.isComposedBy h s then accepted c else dropped h d c
      let walked := if h.rootContract.isSome then (InterfaceWalk.run s d).events d else []
      { outcome with events := walked ++ outcome.events }

end Settlement

end InjectionPlan
