import InjectionPlan.Block.Decoration
import InjectionPlan.Block.Hook
import InjectionPlan.Block.Registration
import InjectionPlan.Settings

/-! # The block of a type

    What a declared type adds to the plan is its block: the registrations, the
    decoration and the hooks that its markers ask for, with what is wrong with
    them.  A type without markers has an empty block.

    The block depends on no other type's markers, so the blocks of a module can be
    made in any order.
-/

namespace InjectionPlan

/-- What one type adds to a plan. -/
structure Block where
  /-- The instructions, in order. -/
  instructions : List Instruction
  /-- What is wrong, in order. -/
  diagnostics : List Diagnostic
  /-- What is told, in order. -/
  events : List Event
deriving Repr

namespace Block

/-- The block of a type that asks for nothing. -/
def empty : Block := ⟨[], [], []⟩

/-- The block of a type, whether it has markers or not. -/
def full (settings : Settings) (s : Snapshot) (d : Declaration) : Block :=
  let h := settings.host
  let registrations := d.registrations h
  let calls := d.hookCalls h
  let settled := calls.map (Settlement.of h s d)
  let instructions :=
    registrations.map .register ++ (d.decoration? h).toList.map .decorate ++
      (settled.filterMap (·.call)).map .call
  let diagnostics :=
    (if settings.warnsOnAmbiguity then (d.ambiguity? h).toList else []) ++
      settled.flatMap (·.diagnostics)
  { instructions
    diagnostics
    events :=
      registrations.map Registration.event ++ d.decorationEvents h ++
        calls.map d.hookEvent ++ settled.flatMap (·.events) ++
        [.typeResolved d.qualifiedName instructions.length diagnostics.length] }

/-- The block of a type. -/
def of (settings : Settings) (s : Snapshot) (d : Declaration) : Block :=
  if d.isUnmarked then empty else full settings s d

end Block

end InjectionPlan
