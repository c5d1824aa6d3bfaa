import InjectionPlan.Instruction
import InjectionPlan.Text.Quoted

/-! # Log events

    A pass tells what it does by events.  Each kind of event has a level, a fixed
    message and named fields.
-/

namespace InjectionPlan

/-- How much an event matters, the most severe level first. -/
inductive Level
  /-- Something failed. -/
  | error
  /-- Something was left out. -/
  | warn
  /-- Something worth knowing. -/
  | info
  /-- The course of a pass. -/
  | debug
  /-- Every single decision. -/
  | trace
deriving DecidableEq, Repr

namespace Level

/-- The level as log lines show it. -/
def name : Level → String
  | error => "ERROR"
  | warn => "WARN"
  | info => "INFO"
  | debug => "DEBUG"
  | trace => "TRACE"

/-- The rank of a level: the greater, the less severe. -/
def rank : Level → Nat
  | error => 1
  | warn => 2
  | info => 3
  | debug => 4
  | trace => 5

end Level

/-- The value of a field. -/
inductive FieldValue
  /-- A text that line formats put between quotes. -/
  | quoted (s : String)
  /-- A text that is shown as it is. -/
  | bare (s : String)
  /-- A number. -/
  | count (n : Nat)
  /-- A truth value. -/
  | flag (b : Bool)
deriving DecidableEq, Repr

/-- What a pass tells. -/
inductive Event
  /-- The pass begins. -/
  | passStarted (moduleName host : String) (types rules : Nat)
  /-- The user's composition root cannot be extended, so the pass ends. -/
  | passAborted (root : String)
  /-- A marked type gives a registration. -/
  | registrationResolved (implementation : String) (service : Option String) (lifetime : Lifetime)
  /-- A decorator would wrap itself. -/
  | decorationSkipped (decorator : String)
  /-- A configuration method was checked. -/
  | hookChecked (type method : String) (kind : HookKind) (errors : Nat)
  /-- A source of registrations is no composition root. -/
  | sourceDropped (type method : String)
  /-- All markers of a type are dealt with. -/
  | typeResolved (type : String) (instructions diagnostics : Nat)
  /-- The interface walk of a type does not expand a declaration again. -/
  | recursionStopped (type recursive : String)
  /-- The base walk of a type came back to a definition. -/
  | cycleStopped (type ancestor : String)
  /-- A bulk rule names no contract. -/
  | ruleWithoutContract
  /-- A generic candidate closes the contract over other types than its parameters. -/
  | candidateSkipped (candidate contract : String)
  /-- A bulk rule gives a registration. -/
  | ruleMatched (service implementation : String)
  /-- A bulk rule is dealt with. -/
  | ruleExpanded (contract : String) (isOpen : Bool) (lifetime : Lifetime) (registrations : Nat)
  /-- The pass ends. -/
  | passCompleted (moduleName : String) (instructions diagnostics : Nat)
deriving DecidableEq, Repr

namespace Event

/-- The target that all events are logged under. -/
def target : String := "dependency_wiring"

/-- The level of an event. -/
def level : Event → Level
  | passAborted .. | sourceDropped .. => .warn
  | passStarted .. | decorationSkipped .. | hookChecked .. | ruleWithoutContract
  | candidateSkipped .. | ruleExpanded .. | passCompleted .. => .debug
  | registrationResolved .. | typeResolved .. | recursionStopped .. | cycleStopped ..
  | ruleMatched .. => .trace

/-- The message of an event. -/
def message : Event → String
  | passStarted .. => "Starting resolution pass"
  | passAborted .. => "Composition root is not partial, aborting pass"
  | registrationResolved .. => "Resolved registration"
  | decorationSkipped .. => "No decorated contract found, skipping decoration"
  | hookChecked .. => "Resolved extension invocation"
  | sourceDropped .. => "Composition source does not implement the root contract, dropping entry"
  | typeResolved .. => "Resolved type"
  | recursionStopped .. => "Recursive generic inheritance, stopping interface walk"
  | cycleStopped .. => "Inheritance cycle detected, stopping base walk"
  | ruleWithoutContract => "RegisterAll marker without a contract, skipping"
  | candidateSkipped .. => "Generic candidate does not forward its parameters, skipping"
  | ruleMatched .. => "Bulk registration match"
  | ruleExpanded .. => "Expanded RegisterAll marker"
  | passCompleted .. => "Resolution pass complete"

/-- The fields of an event, in order. -/
def fields : Event → List (String × FieldValue)
  | passStarted m h types rules =>
    [("module", .quoted m), ("host", .bare h), ("types", .count types), ("rules", .count rules)]
  | passAborted root => [("root", .bare root)]
  | registrationResolved i s l =>
    [("implementation", .bare i), ("service", .bare (Text.quotedOption s)),
      ("lifetime", .bare l.name)]
  | decorationSkipped d => [("decorator", .bare d)]
  | hookChecked t m k errors =>
    [("ty", .bare t), ("method", .quoted m), ("kind", .bare k.name), ("errors", .count errors)]
  | sourceDropped t m => [("ty", .bare t), ("method", .bare m)]
  | typeResolved t instructions diagnostics =>
    [("ty", .bare t), ("descriptors", .count instructions), ("diagnostics", .count diagnostics)]
  | recursionStopped t r => [("ty", .bare t), ("recursive", .bare r)]
  | cycleStopped t a => [("ty", .bare t), ("ancestor", .bare a)]
  | ruleWithoutContract => []
  | candidateSkipped c k => [("candidate", .bare c), ("contract", .bare k)]
  | ruleMatched s i => [("service", .bare s), ("implementation", .bare i)]
  | ruleExpanded c isOpen l registrations =>
    [("contract", .bare c), ("unbound", .flag isOpen), ("lifetime", .bare l.name),
      ("registrations", .count registrations)]
  | passCompleted m instructions diagnostics =>
    [("module", .quoted m), ("descriptors", .count instructions),
      ("diagnostics", .count diagnostics)]

/-- Whether the event has a field of this name; its message counts as one. -/
def hasField (e : Event) (name : String) : Bool :=
  name = "message" || e.fields.any (·.1 = name)

end Event

end InjectionPlan
