import InjectionPlan.Log.Line
import InjectionPlan.Showcase.Shop

/-! # A showcase

    What is written about the shop module: a heading, the log of the pass and the plan.
-/

namespace InjectionPlan.Showcase

/-- What is written about an instruction. -/
def instructionText : Instruction → String
  | .register r =>
    "  register  " ++ r.service.getD "(self)" ++ " -> " ++ r.implementation ++ " [" ++
      r.lifetime.name ++ "] name=" ++ r.serviceName.getD "-"
  | .decorate d => "  decorate  " ++ d.decorated ++ " with " ++ d.decorator
  | .call c =>
    (match c.kind with
      | .staticCall => "  call      "
      | .compositionSource => "  compose   ") ++ c.typeName ++ "." ++ c.methodName

/-- What is written about a plan. -/
def planText (p : Plan) : List String :=
  ["namespace:        " ++ p.ns,
    "entry point:      " ++ p.entryPoint,
    "extends user root: " ++ LogSettings.flagWord p.extendsRoot,
    "", "descriptors:"] ++
  p.instructions.map instructionText ++
  ["", "diagnostics:"] ++
  p.report.records.map (fun d => "  " ++ d.text) ++
  ["", "=== Demo Complete ==="]

/-- What is written about the showcase: a heading, the log of the pass, the plan. -/
def lines : List LogLine :=
  ["=== Dependency Wiring Demo ===", ""].flatMap LogLine.ofText ++
    match draft.freeze with
    | .error e => LogLine.ofText e.message
    | .ok s =>
      LogSettings.default.lines LogSettings.default.ownFilter (settings.journal s) ++
        (planText (settings.plan s)).flatMap LogLine.ofText

end InjectionPlan.Showcase
