import InjectionPlan.Text.Template

/-! # Findings

    A finding is a thing that can be wrong with a module.  It has an identifier that
    never changes, a title, a message template and a severity.
-/

namespace InjectionPlan

/-- How serious a diagnostic is. -/
inductive Severity
  /-- The plan is made as if nothing were said. -/
  | warning
  /-- Something that was asked for is left out of the plan. -/
  | error
deriving DecidableEq, Repr

/-- The severity as it is shown. -/
def Severity.name : Severity → String
  | warning => "warning"
  | error => "error"

/-- What is wrong. -/
inductive Finding
  /-- Generated code cannot call the method. -/
  | hookNotAccessible
  /-- The method is not static. -/
  | hookNotStatic
  /-- The method does not take exactly one parameter. -/
  | hookParameterCount
  /-- The method's first parameter is not the registry. -/
  | hookParameterType
  /-- The user's composition root cannot be extended. -/
  | rootNotPartial
  /-- The source of registrations is no composition root. -/
  | sourceNotRoot
  /-- A contract was chosen among several interfaces. -/
  | ambiguousContract
deriving DecidableEq, Repr

namespace Finding

open Text

/-- All findings, in the order of their identifiers. -/
def all : List Finding :=
  [hookNotAccessible, hookNotStatic, hookParameterCount, hookParameterType, rootNotPartial,
    sourceNotRoot, ambiguousContract]

/-- The stable identifier. -/
def id : Finding → String
  | hookNotAccessible => "DIW0001"
  | hookNotStatic => "DIW0002"
  | hookParameterCount => "DIW0003"
  | hookParameterType => "DIW0004"
  | rootNotPartial => "DIW0005"
  | sourceNotRoot => "DIW0006"
  | ambiguousContract => "DIW0101"

/-- The finding with this identifier. -/
def ofId? (s : String) : Option Finding := all.find? (·.id == s)

/-- A short title. -/
def title : Finding → String
  | hookNotAccessible => "Invalid method accessor"
  | hookNotStatic => "Method must be static"
  | hookParameterCount => "Invalid parameter count"
  | hookParameterType => "Invalid parameter type"
  | rootNotPartial => "Composition root not partial"
  | sourceNotRoot => "Composition source is not a composition root"
  | ambiguousContract => "Ambiguous implicit contract"

/-- The message, with holes for what it is about. -/
def template : Finding → Template
  | hookNotAccessible =>
    [.words "Method ", .hole 0, .words " on type ", .hole 1, .words " must be public or internal"]
  | hookNotStatic =>
    [.words "Method ", .hole 0, .words " on type ", .hole 1, .words " must be static"]
  | hookParameterCount =>
    [.words "Method ", .hole 0, .words " on type ", .hole 1,
      .words " must have exactly one parameter of type ", .hole 2]
  | hookParameterType =>
    [.words "Method ", .hole 0, .words " on type ", .hole 1,
      .words " must have input parameter of type ", .hole 2]
  | rootNotPartial => [.hole 0, .words " must be partial"]
  | sourceNotRoot =>
    [.words "Method ", .hole 0, .words " marks type ", .hole 1,
      .words " as a composition source but ", .hole 1, .words " does not implement ", .hole 2]
  | ambiguousContract =>
    [.words "Type ", .hole 0, .words " implements ", .hole 1,
      .words " interfaces and no explicit contract was given; ", .hole 2, .words " was used"]

/-- How serious it is: only the ambiguous contract is a warning. -/
def severity : Finding → Severity
  | ambiguousContract => .warning
  | _ => .error

/-- Whether nothing else can be planned. -/
def isFatal : Finding → Bool
  | rootNotPartial => true
  | _ => false

end Finding

end InjectionPlan
