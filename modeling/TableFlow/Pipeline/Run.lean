import TableFlow.Execution.Debug
import TableFlow.Pipeline.Pending

namespace TableFlow

-- A block that was run, and its input.
structure Step where
  block : Block
  input : Artifact
  execution : Execution Artifact

structure Run where
  steps : List Step
  ending : Except Failure Unit

namespace Run

-- A run that ends before a block is run.
def stop (error : ExecutionError) : Run := ⟨[], .error (.error error)⟩

-- A step before the rest of a run.
def after (step : Step) (run : Run) : Run := { run with steps := step :: run.steps }

-- Runs one block and logs its output.
def runBlock (kind : BlockKind) (c : Context) (block : Block) (input : Artifact) :
    Execution Artifact := do
  let c := c.enter (.block block)
  let output ← kind.execute input c
  c.debugOutput block.name output
  return output

-- What a block is given, and the outputs that still wait then.
def inputFor (pending : Pending) (s : Scheduled) : Artifact × Pending :=
  match s.parent with
  | some parent => pending.take parent
  | none => (.none, pending)

-- Runs the blocks of a schedule.
def runAll (r : Registry) (c : Context) : Pending → List Scheduled → Run
  | _, [] => ⟨[], .ok ()⟩
  | pending, s :: rest =>
    match r.block? s.block.kind with
    | none => stop (.unknownBlockType s.block.name s.block.kind)
    | some kind =>
      let (input, pending) := inputFor pending s
      let expected := kind.spec.input
      if input.kind ≠ expected ∧ expected ≠ .none then
        stop (.block (.inputMismatch s.block.name expected input.kind)
          (Node.block s.block).anchor)
      else
        let execution := runBlock kind c s.block input
        let step : Step := ⟨s.block, input, execution⟩
        match execution.result with
        | .ok output => after step (runAll r c (pending.store s.block.name output) rest)
        | .error failure => ⟨[step], .error failure⟩

-- Runs a pipeline, unless its blocks have no order or do not fit together.
def ofPipeline (r : Registry) (c : Context) : Run :=
  match c.pipeline.schedule with
  | .error error => stop error
  | .ok schedule =>
    match c.pipeline.check r with
    | .error error => stop error
    | .ok () => runAll r c (.ofSchedule schedule) schedule

-- The parameters and the blocks of a run.
def overview (c : Context) : String :=
  let entries := c.settings.parameters.entries
  let parameter (name : String) :=
    "\t\t" ++ name ++ ": " ++ (c.settings.parameters.text? name).getD ""
  let parameters := if entries = [] then [] else
    ("\tRuntime Parameters (" ++ toString entries.length ++ "):") ::
      (TypeRegistry.sortNames (entries.map (·.1))).map parameter
  let blocks := ("\tBlocks (" ++ toString c.pipeline.blocks.length ++ " blocks with " ++
      toString c.pipeline.pipes.length ++ " pipes):") ::
    c.pipeline.blocks.map fun block => "\t -> " ++ block.name ++ " (" ++ block.kind ++ ")"
  "\n".intercalate ("Overview:" :: parameters ++ blocks)

-- What is logged about the end of a run.
def endLog (c : Context) : Except Failure Unit → List LogEntry
  | .error (.error error) => [c.logger.errorAt error.message (error.anchor?.getD c.anchor)]
  | _ => []

-- Everything that a run logs.
def log (c : Context) (run : Run) : List LogEntry :=
  c.logger.info (overview c) :: run.steps.flatMap (·.execution.log) ++ endLog c run.ending

def isSuccess (run : Run) : Bool :=
  match run.ending with
  | .ok () => true
  | .error _ => false

end Run

-- The runs of the pipelines of a program. A failure of one does not keep the others from being run,
-- but the program succeeds only if all of them do.
def runProgram (r : Registry) (settings : Settings) (pipelines : List Pipeline) :
    List (Context × Run) :=
  pipelines.map fun p =>
    let c := r.context settings p
    (c, Run.ofPipeline r c)

def isSuccess (runs : List (Context × Run)) : Bool := runs.all (·.2.isSuccess)

end TableFlow
