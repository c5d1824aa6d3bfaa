import InjectionPlan.Showcase
import InjectionPlan.Stored.Printer

/-! # The showcase on standard output -/

namespace InjectionPlan

/-- The text of a line. -/
def LogLine.print : LogLine → String
  | text s => s
  | record d => d.print

end InjectionPlan

/-- Prints the showcase. -/
def main : IO Unit := do
  for line in InjectionPlan.Showcase.lines do
    IO.println line.print
