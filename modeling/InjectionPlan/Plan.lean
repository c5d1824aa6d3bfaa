import InjectionPlan.Expansion
import InjectionPlan.Schedule

/-! # Plans

    A pass over a snapshot makes the block of every type and expands every bulk
    rule.  The plan holds the instructions of the blocks in the order of
    declaration, then the registrations of the rules.

    The generated code extends the user's composition root if there is one: the
    first type of the host's root name that is not an interface.  If that root
    cannot be extended, the pass is aborted with a single diagnostic.

    The plan and the journal of events are two views of one `Resolution`.
-/

namespace InjectionPlan

/-- What a pass comes to. -/
inductive Resolution
  /-- The user's composition root cannot be extended. -/
  | aborted (root : Declaration)
  /-- The blocks of the types and the expansions of the bulk rules. -/
  | completed (blocks : List Block) (expansions : List Expansion)
deriving Repr

/-- A plan for the generated code. -/
structure Plan where
  /-- What to wire, in order. -/
  instructions : List Instruction
  /-- The namespace that the generated code stands in. -/
  ns : String
  /-- Whether it extends a composition root of the user. -/
  extendsRoot : Bool
  /-- The method that it is entered by. -/
  entryPoint : String
  /-- What is wrong with the module. -/
  report : Report
deriving DecidableEq, Repr

namespace Plan

/-- Whether the pass was aborted, so that no code is to be generated. -/
def isAborted (p : Plan) : Bool := p.report.stopsPass

/-- The registrations of the plan, in order. -/
def registrations (p : Plan) : List Registration :=
  p.instructions.filterMap Instruction.registration?

/-- The decorations of the plan, in order. -/
def decorations (p : Plan) : List Decoration := p.instructions.filterMap Instruction.decoration?

/-- The calls of the plan, in order. -/
def calls (p : Plan) : List HookCall := p.instructions.filterMap Instruction.call?

end Plan

namespace Snapshot

/-- The user's composition root. -/
def userRoot? (s : Snapshot) (h : Host) : Option Declaration :=
  h.rootName.bind fun n => s.types.find? fun d => !d.isInterface && d.name == n

/-- The namespace of the generated code: that of the user's root, else the
smallest of the module, else the module's name. -/
def planNamespace (s : Snapshot) (h : Host) : String :=
  (((s.userRoot? h).map Declaration.ns).or s.smallestNamespace?).getD s.name

/-- The method that the generated code is entered by: named after the module,
without the dots. -/
def entryPoint (s : Snapshot) : String :=
  "Add" ++ String.ofList (s.name.toList.filter (· != '.'))

end Snapshot

namespace Resolution

/-- The blocks of all types, in the order of declaration. -/
def blocks (sched : Schedule) (settings : Settings) (s : Snapshot) : List Block :=
  if settings.parallel then sched.blocks settings s else s.types.map (Block.of settings s)

/-- What the pass over a snapshot comes to. -/
def of (sched : Schedule) (settings : Settings) (s : Snapshot) : Resolution :=
  match (s.userRoot? settings.host).filter (!·.isPartial) with
  | some root => aborted root
  | none => completed (blocks sched settings s) (Expansion.all settings.host s)

/-- The error that the composition root cannot be extended. -/
def rootError (root : Declaration) : Diagnostic :=
  .make .rootNotPartial (.ofType root) [root.name]

/-- The instructions that a pass comes to. -/
def instructions : Resolution → List Instruction
  | aborted _ => []
  | completed blocks expansions =>
    blocks.flatMap (·.instructions) ++ (expansions.flatMap (·.registrations)).map .register

/-- What a pass finds wrong. -/
def diagnostics : Resolution → List Diagnostic
  | aborted root => [rootError root]
  | completed blocks _ => blocks.flatMap (·.diagnostics)

/-- The plan that a pass comes to. -/
def plan (r : Resolution) (settings : Settings) (s : Snapshot) : Plan where
  instructions := r.instructions
  ns := s.planNamespace settings.host
  extendsRoot := (s.userRoot? settings.host).isSome
  entryPoint := s.entryPoint
  report := ⟨r.diagnostics⟩

/-- The event that begins a pass. -/
def startEvent (settings : Settings) (s : Snapshot) : Event :=
  .passStarted s.name settings.host.name s.types.length s.rules.length

/-- What is told at the end of a pass, after the blocks. -/
def closingEvents (r : Resolution) (s : Snapshot) : List Event :=
  match r with
  | aborted root => [.passAborted root.qualifiedName]
  | completed _ expansions =>
    expansions.flatMap (·.events) ++
      [.passCompleted s.name r.instructions.length r.diagnostics.length]

/-- What is told of the types. -/
def blockEvents : Resolution → List Event
  | aborted _ => []
  | completed blocks _ => blocks.flatMap (·.events)

/-- All that is told of a pass by one worker, in order. -/
def journal (r : Resolution) (settings : Settings) (s : Snapshot) : List Event :=
  startEvent settings s :: (r.blockEvents ++ r.closingEvents s)

/-- Whether other workers make the blocks: there is nothing to share between
workers if the module has a single type. -/
def isShared (settings : Settings) (s : Snapshot) : Bool :=
  settings.parallel && 1 < s.types.length

/-- What the worker that leads a pass tells itself, in order: what is told of the
types is left to the workers that share them. -/
def leadJournal (r : Resolution) (settings : Settings) (s : Snapshot) : List Event :=
  startEvent settings s ::
    ((if isShared settings s then [] else r.blockEvents) ++ r.closingEvents s)

end Resolution

namespace Settings

/-- The plan for a snapshot, if blocks arrive by the schedule. -/
def planBy (settings : Settings) (sched : Schedule) (s : Snapshot) : Plan :=
  (Resolution.of sched settings s).plan settings s

/-- The plan for a snapshot. -/
def plan (settings : Settings) (s : Snapshot) : Plan := settings.planBy .inOrder s

/-- What a pass over a snapshot tells. -/
def journal (settings : Settings) (s : Snapshot) : List Event :=
  (Resolution.of .inOrder settings s).journal settings s

end Settings

end InjectionPlan
