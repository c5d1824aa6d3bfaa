import InjectionPlan.Trial.Source

/-! # Trial scripts

    A script describes a small module by numbers.  It is drawn from bytes field by
    field.  The numbers are reduced to small pools of names only when the module
    is made, so that its types have to do with each other.
-/

namespace InjectionPlan.Trial

/-- A reference to a type of the pools. -/
inductive RefScript
  /-- A class. -/
  | ofClass (i : UInt8)
  /-- An interface. -/
  | ofInterface (i : UInt8)
  /-- A generic interface, applied to a class. -/
  | ofGeneric (i arg : UInt8)
  /-- A name that cannot be resolved. -/
  | broken (i : UInt8)
  /-- The root of all classes. -/
  | rootObject
deriving DecidableEq, Repr

/-- A marker on a type. -/
inductive MarkerScript
  /-- Register the type for a contract, with a lifetime and a name. -/
  | register (contract : Option RefScript) (lifetime : UInt8) (name : Option UInt8)
  /-- Decorate a contract. -/
  | decorate (contract : Option RefScript)
deriving DecidableEq, Repr

/-- A hook. -/
structure MethodScript where
  /-- Whether everybody may use it. -/
  isPublic : Bool
  /-- Whether it is static. -/
  isStatic : Bool
  /-- Whether it takes a registry. -/
  takesRegistry : Bool
  /-- Whether it takes something else. -/
  takesMore : Bool
  /-- Whether its type is a source of registrations. -/
  isSource : Bool
deriving DecidableEq, Repr

/-- A declared type. -/
structure TypeScript where
  /-- The number that its name is made of. -/
  id : UInt8
  /-- Whether it is an interface. -/
  isInterface : Bool
  /-- Whether it is abstract. -/
  isAbstract : Bool
  /-- Whether it is partial. -/
  isPartial : Bool
  /-- The base. -/
  base : Option RefScript
  /-- The interfaces. -/
  interfaces : List RefScript
  /-- The markers. -/
  markers : List MarkerScript
  /-- The hooks. -/
  methods : List MethodScript
deriving DecidableEq, Repr

/-- A bulk rule. -/
structure RuleScript where
  /-- The contract. -/
  contract : RefScript
  /-- Whether registrations are named after their type. -/
  namesByType : Bool
  /-- The number of the lifetime. -/
  lifetime : UInt8
deriving DecidableEq, Repr

/-- A module and the settings to try it with. -/
structure Script where
  /-- Whether the host has composition roots. -/
  hasRoots : Bool
  /-- Whether to warn of contracts chosen among several. -/
  warnsOnAmbiguity : Bool
  /-- Whether several workers share the types. -/
  parallel : Bool
  /-- The declared types. -/
  types : List TypeScript
  /-- The bulk rules. -/
  rules : List RuleScript
deriving DecidableEq, Repr

/-- Draws a reference. -/
def RefScript.draw : Draw RefScript := do
  match ← choice 5 with
  | 0 => return .ofClass (← byte)
  | 1 => return .ofInterface (← byte)
  | 2 => return .ofGeneric (← byte) (← byte)
  | 3 => return .broken (← byte)
  | _ => return .rootObject

/-- Draws a marker. -/
def MarkerScript.draw : Draw MarkerScript := do
  match ← choice 2 with
  | 0 =>
    let contract ← optional RefScript.draw
    let lifetime ← byte
    let name ← optional byte
    return .register contract lifetime name
  | _ => return .decorate (← optional RefScript.draw)

/-- Draws a hook. -/
def MethodScript.draw : Draw MethodScript := do
  let isPublic ← flag
  let isStatic ← flag
  let takesRegistry ← flag
  let takesMore ← flag
  let isSource ← flag
  return { isPublic, isStatic, takesRegistry, takesMore, isSource }

/-- Draws a type. -/
def TypeScript.draw : Draw TypeScript := do
  let id ← byte
  let isInterface ← flag
  let isAbstract ← flag
  let isPartial ← flag
  let base ← optional RefScript.draw
  let interfaces ← list RefScript.draw
  let markers ← list MarkerScript.draw
  let methods ← list MethodScript.draw
  return { id, isInterface, isAbstract, isPartial, base, interfaces, markers, methods }

/-- Draws a bulk rule. -/
def RuleScript.draw : Draw RuleScript := do
  let contract ← RefScript.draw
  let namesByType ← flag
  let lifetime ← byte
  return { contract, namesByType, lifetime }

/-- Draws a script. -/
def Script.draw : Draw Script := do
  let hasRoots ← flag
  let warnsOnAmbiguity ← flag
  let parallel ← flag
  let types ← list TypeScript.draw
  let rules ← list RuleScript.draw
  return { hasRoots, warnsOnAmbiguity, parallel, types, rules }

/-- The fewest bytes that a script takes: one for each truth value of its own. -/
def Script.fewestBytes : Nat := 3

/-- The script in a string of bytes, if the string is long enough. -/
def Script.ofBytes? (bytes : List UInt8) : Option Script :=
  if bytes.length < fewestBytes then none else some (Script.draw bytes).1

end InjectionPlan.Trial
