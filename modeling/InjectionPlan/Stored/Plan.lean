import InjectionPlan.Plan
import InjectionPlan.Stored.Marker

/-! # Stored diagnostics, instructions, settings and plans

    Everything is read as it is stored.  In particular the severity of a stored
    diagnostic need not be that of its finding, and a stored registration may name
    its implementation as its contract.
-/

namespace InjectionPlan

namespace Severity

/-- The stored names of the severities. -/
def storedNames : List (String × Severity) := [("Warning", warning), ("Error", error)]

/-- Stores a severity by its name. -/
def store : Severity → Document
  | warning => .text "Warning"
  | error => .text "Error"

/-- Reads a severity. -/
def restore? : Document → Option Severity := Document.oneOf? storedNames

end Severity

namespace Finding

/-- The stored name of a finding. -/
def storedName : Finding → String
  | hookNotAccessible => "InvalidAccessibility"
  | hookNotStatic => "NotStatic"
  | hookParameterCount => "InvalidParameterCount"
  | hookParameterType => "InvalidParameterType"
  | rootNotPartial => "CompositionRootNotPartial"
  | sourceNotRoot => "CompositionSourceNotRoot"
  | ambiguousContract => "AmbiguousContract"

/-- Stores a finding by its name. -/
def store (f : Finding) : Document := .text f.storedName

/-- Reads a finding. -/
def restore? : Document → Option Finding :=
  Document.oneOf? (all.map fun f => (f.storedName, f))

end Finding

namespace Location

/-- Stores what a diagnostic points at. -/
def store (l : Location) : Document :=
  .object [("type_name", .text l.typeName), ("member", .ofOption .text l.member),
    ("span", .ofOption SourcePlace.store l.span)]

/-- Reads what a diagnostic points at. -/
def restore? (d : Document) : Option Location := do
  let fs ← d.fields?
  let typeName ← fs.required "type_name" Document.text?
  let member ← fs.optional "member" Document.text?
  let span ← fs.optional "span" SourcePlace.restore?
  return ⟨typeName, member, span⟩

end Location

namespace Diagnostic

/-- Stores a diagnostic. -/
def store (d : Diagnostic) : Document :=
  .object [("code", d.finding.store), ("severity", d.severity.store), ("message", .text d.message),
    ("location", d.location.store)]

/-- Reads a diagnostic. -/
def restore? (d : Document) : Option Diagnostic := do
  let fs ← d.fields?
  let finding ← fs.required "code" Finding.restore?
  let severity ← fs.required "severity" Severity.restore?
  let message ← fs.required "message" Document.text?
  let location ← fs.required "location" Location.restore?
  return ⟨finding, severity, message, location⟩

end Diagnostic

namespace Report

/-- Stores a report. -/
def store (r : Report) : Document := .object [("records", .ofList Diagnostic.store r.records)]

/-- Reads a report. -/
def restore? (d : Document) : Option Report := do
  let fs ← d.fields?
  let records ← fs.required "records" (Document.list? Diagnostic.restore?)
  return ⟨records⟩

end Report

namespace Registration

/-- Stores a registration. -/
def store (r : Registration) : Document :=
  .object [("service_type", .ofOption .text r.service),
    ("implementation_type_name", .text r.implementation), ("lifetime", r.lifetime.store),
    ("service_name", .ofOption .text r.serviceName)]

/-- Reads a registration. -/
def restore? (d : Document) : Option Registration := do
  let fs ← d.fields?
  let service ← fs.optional "service_type" Document.text?
  let implementation ← fs.required "implementation_type_name" Document.text?
  let lifetime ← fs.required "lifetime" Lifetime.restore?
  let serviceName ← fs.optional "service_name" Document.text?
  return ⟨service, implementation, lifetime, serviceName⟩

end Registration

namespace Decoration

/-- Stores a decoration. -/
def store (d : Decoration) : Document :=
  .object [("decorated_type_name", .text d.decorated), ("decorator_type_name", .text d.decorator)]

/-- Reads a decoration. -/
def restore? (d : Document) : Option Decoration := do
  let fs ← d.fields?
  let decorated ← fs.required "decorated_type_name" Document.text?
  let decorator ← fs.required "decorator_type_name" Document.text?
  return ⟨decorated, decorator⟩

end Decoration

namespace HookKind

/-- Stores a kind of hook by its name. -/
def store (k : HookKind) : Document := .text k.name

/-- Reads a kind of hook. -/
def restore? : Document → Option HookKind :=
  Document.oneOf? ([staticCall, compositionSource].map fun k => (k.name, k))

end HookKind

namespace HookCall

/-- Stores a call. -/
def store (c : HookCall) : Document :=
  .object [("declaring_type_name", .text c.typeName), ("method_name", .text c.methodName),
    ("kind", c.kind.store), ("errors", .ofList Diagnostic.store c.errors)]

/-- Reads a call. -/
def restore? (d : Document) : Option HookCall := do
  let fs ← d.fields?
  let typeName ← fs.required "declaring_type_name" Document.text?
  let methodName ← fs.required "method_name" Document.text?
  let kind ← fs.required "kind" HookKind.restore?
  let errors ← fs.required "errors" (Document.list? Diagnostic.restore?)
  return ⟨typeName, methodName, kind, errors⟩

end HookCall

namespace Instruction

/-- Stores an instruction. -/
def store : Instruction → Document
  | register r => .object [("Registration", r.store)]
  | decorate d => .object [("Decoration", d.store)]
  | call c => .object [("Extension", c.store)]

/-- Reads an instruction. -/
def restore? (d : Document) : Option Instruction :=
  match d.constructor? with
  | some ("Registration", v) => (Registration.restore? v).map register
  | some ("Decoration", v) => (Decoration.restore? v).map decorate
  | some ("Extension", v) => (HookCall.restore? v).map call
  | _ => none

end Instruction

namespace Host

/-- Stores a host. -/
def store (h : Host) : Document :=
  .object [("name", .text h.name), ("registry_type", .text h.registryType),
    ("composition_root_name", .ofOption .text h.rootName),
    ("composition_root_contract", .ofOption .text h.rootContract),
    ("equality_contract", .text h.equalityContract), ("root_object", .text h.rootObject)]

/-- Reads a host. -/
def restore? (d : Document) : Option Host := do
  let fs ← d.fields?
  let name ← fs.required "name" Document.text?
  let registryType ← fs.required "registry_type" Document.text?
  let rootName ← fs.optional "composition_root_name" Document.text?
  let rootContract ← fs.optional "composition_root_contract" Document.text?
  let equalityContract ← fs.required "equality_contract" Document.text?
  let rootObject ← fs.required "root_object" Document.text?
  return ⟨name, registryType, rootName, rootContract, equalityContract, rootObject⟩

end Host

namespace Settings

/-- Stores settings. -/
def store (s : Settings) : Document :=
  .object [("host", s.host.store), ("warn_on_ambiguous_contract", .bool s.warnsOnAmbiguity),
    ("parallel", .bool s.parallel)]

/-- Reads settings; those that are missing are as in `Settings.default`. -/
def restore? (d : Document) : Option Settings := do
  let fs ← d.fields?
  let host ← fs.defaulted "host" Host.restore? default.host
  let warnsOnAmbiguity ←
    fs.defaulted "warn_on_ambiguous_contract" Document.bool? default.warnsOnAmbiguity
  let parallel ← fs.defaulted "parallel" Document.bool? default.parallel
  return ⟨host, warnsOnAmbiguity, parallel⟩

end Settings

namespace Plan

/-- Stores a plan. -/
def store (p : Plan) : Document :=
  .object [("descriptors", .ofList Instruction.store p.instructions), ("namespace", .text p.ns),
    ("has_user_root", .bool p.extendsRoot), ("extension_method_name", .text p.entryPoint),
    ("diagnostics", p.report.store)]

/-- Reads a plan. -/
def restore? (d : Document) : Option Plan := do
  let fs ← d.fields?
  let instructions ← fs.required "descriptors" (Document.list? Instruction.restore?)
  let ns ← fs.required "namespace" Document.text?
  let extendsRoot ← fs.required "has_user_root" Document.bool?
  let entryPoint ← fs.required "extension_method_name" Document.text?
  let report ← fs.required "diagnostics" Report.restore?
  return ⟨instructions, ns, extendsRoot, entryPoint, report⟩

end Plan

end InjectionPlan
