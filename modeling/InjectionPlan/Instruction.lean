import InjectionPlan.Diagnostic.Record

/-! # Wiring instructions

    A plan is a list of instructions: register an implementation for a contract,
    wrap a contract with a decorator, call a configuration method.  Instructions
    hold names only.
-/

namespace InjectionPlan

/-- Register an implementation. -/
structure Registration where
  /-- The contract; absent if the implementation is registered as itself. -/
  service : Option String
  /-- The implementation. -/
  implementation : String
  /-- How long its instances are kept. -/
  lifetime : Lifetime
  /-- The name it is registered under, if any. -/
  serviceName : Option String
deriving DecidableEq, Repr

namespace Registration

/-- The registration of an implementation for a contract.  A contract of the
implementation's own name is left out. -/
def make (service : Option String) (implementation : String) (lifetime : Lifetime)
    (serviceName : Option String) : Registration :=
  ⟨service.filter (· != implementation), implementation, lifetime, serviceName⟩

/-- Whether the implementation is registered as itself. -/
def isSelf (r : Registration) : Bool := r.service.isNone

/-- The type arguments of the call that registers it. -/
def typeArguments (r : Registration) : List String := r.service.toList ++ [r.implementation]

theorem service_make_ne {service : Option String} {implementation : String} {l : Lifetime}
    {n : Option String} {s : String}
    (h : (make service implementation l n).service = some s) : s ≠ implementation := by
  simp only [make, Option.filter_eq_some_iff] at h
  simpa using h.2

end Registration

/-- Wrap a contract with a decorator. -/
structure Decoration where
  /-- The contract. -/
  decorated : String
  /-- The decorator. -/
  decorator : String
deriving DecidableEq, Repr

/-- How a configuration method takes part. -/
inductive HookKind
  /-- It is called with the registry. -/
  | staticCall
  /-- Its type is a composition root to register from. -/
  | compositionSource
deriving DecidableEq, Repr

/-- The kind as it is shown. -/
def HookKind.name : HookKind → String
  | staticCall => "StaticCall"
  | compositionSource => "CompositionSource"

/-- Call a configuration method. -/
structure HookCall where
  /-- The qualified name of its type. -/
  typeName : String
  /-- The method. -/
  methodName : String
  /-- How it takes part. -/
  kind : HookKind
  /-- What is wrong with it; if anything is, it is not called. -/
  errors : List Diagnostic
deriving DecidableEq, Repr

/-- Whether nothing is wrong with the method. -/
def HookCall.isValid (c : HookCall) : Bool := c.errors.isEmpty

/-- One instruction of a plan. -/
inductive Instruction
  /-- Register an implementation. -/
  | register (r : Registration)
  /-- Wrap a contract. -/
  | decorate (d : Decoration)
  /-- Call a configuration method. -/
  | call (c : HookCall)
deriving DecidableEq, Repr

namespace Instruction

/-- The registration that the instruction is. -/
def registration? : Instruction → Option Registration
  | register r => some r
  | _ => none

/-- The decoration that the instruction is. -/
def decoration? : Instruction → Option Decoration
  | decorate d => some d
  | _ => none

/-- The call that the instruction is. -/
def call? : Instruction → Option HookCall
  | call c => some c
  | _ => none

end Instruction

end InjectionPlan
