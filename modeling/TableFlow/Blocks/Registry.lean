import TableFlow.Blocks.TableInterpreter
import TableFlow.Blocks.TableTransformer
import TableFlow.ValueType.Registry

namespace TableFlow

structure BlockKind where
  spec : BlockSpec
  execute : Artifact → Context → Execution Artifact

structure Registry where
  blocks : List BlockKind
  constraints : List ConstraintKind

namespace Registry

def standard : Registry :=
  ⟨[⟨TableInterpreter.spec, TableInterpreter.execute⟩,
      ⟨TableTransformer.spec, TableTransformer.execute⟩],
    ConstraintKind.standard⟩

-- Adds a kind of block, in place of the one of its name.
def register (r : Registry) (kind : BlockKind) : Registry :=
  { r with blocks := place (fun kind => kind.spec.kind) kind r.blocks }

def block? (r : Registry) (kind : String) : Option BlockKind :=
  r.blocks.find? (·.spec.kind == kind)

-- The context in which the blocks of a pipeline are run.
def context (r : Registry) (settings : Settings) (pipeline : Pipeline) : Context :=
  { pipeline, settings
    blocks := r.blocks.map (·.spec)
    constraints := r.constraints.map (·.toConstraintSpec)
    nodes := []
    kinds := r.constraints }

-- The names that are known, in ascending order.
def text (r : Registry) : String :=
  let list (names : List String) :=
    bracketed ((TypeRegistry.sortNames names).map fun name => "\"" ++ name ++ "\"")
  "ExecutorRegistry \x7b blocks: " ++ list (r.blocks.map (·.spec.kind)) ++ ", constraints: " ++
    list (r.constraints.map (·.name)) ++ " \x7d"

end Registry

end TableFlow
