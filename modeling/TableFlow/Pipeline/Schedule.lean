import TableFlow.Blocks.Registry

namespace TableFlow

-- A block and the name of the block whose output it takes.
structure Scheduled where
  block : Block
  parent : Option String

-- A pipe between blocks that are given by their positions.
structure Link where
  source : Nat
  target : Nat
deriving DecidableEq

namespace Pipeline

variable (p : Pipeline)

-- The position of the last block of that name.
def position? (name : String) : Option Nat :=
  ((p.blocks.zipIdx.filter (·.1.name == name)).getLast?).map (·.2)

def resolve (name : String) : Except ExecutionError Nat :=
  match p.position? name with
  | some index => .ok index
  | none => .error (.unknownBlock name)

-- Adds the link of a pipe, unless its target already has one.
def addLink (links : List Link) (pipe : Pipe) : Except ExecutionError (List Link) := do
  let source ← p.resolve pipe.source
  let target ← p.resolve pipe.target
  if links.any (·.target == target) then
    .error (.multipleInputs pipe.target (p.pipes.countP (·.target == pipe.target)))
  else return links ++ [⟨source, target⟩]

def links : Except ExecutionError (List Link) := p.pipes.foldlM p.addLink []

end Pipeline

namespace Link

-- The blocks that take the output of a block, in the order of the pipes.
def children (links : List Link) (index : Nat) : List Nat :=
  (links.filter (·.source == index)).map (·.target)

def parent? (links : List Link) (index : Nat) : Option Nat :=
  (links.find? (·.target == index)).map (·.source)

-- The blocks among the first `count` that have no incoming link.
def roots (links : List Link) (count : Nat) : List Nat :=
  (List.range count).filter fun index => (parent? links index).isNone

-- Visits the blocks of a queue, each of which puts its children at the end. A block is the target
-- of at most one link, so it is visited at most once and the number of blocks bounds the visits.
def visit (links : List Link) : Nat → List Nat → List Nat
  | 0, _ => []
  | _, [] => []
  | fuel + 1, index :: queue => index :: visit links fuel (queue ++ children links index)

end Link

namespace Pipeline

variable (p : Pipeline)

-- A block together with its parent.
def scheduled? (links : List Link) (index : Nat) : Option Scheduled :=
  p.blocks[index]?.map fun block =>
    ⟨block, (Link.parent? links index).bind fun parent => p.blocks[parent]?.map (·.name)⟩

-- The order in which the blocks are run. Blocks on a cycle are never reached.
def schedule : Except ExecutionError (List Scheduled) := do
  let links ← p.links
  let order := Link.visit links p.blocks.length (Link.roots links p.blocks.length)
  if order.length < p.blocks.length then .error (.cycle p.name)
  else return order.filterMap (p.scheduled? links)

-- What a block takes and makes.
def specOf (r : Registry) (block : Block) : Except ExecutionError BlockSpec :=
  match r.block? block.kind with
  | some kind => .ok kind.spec
  | none => .error (.unknownBlockType block.name block.kind)

-- A pipe has to lead to a block that takes what its source makes.
def checkPipe (r : Registry) (pipe : Pipe) : Except ExecutionError Unit := do
  match p.block? pipe.source, p.block? pipe.target with
  | some source, some target =>
    let source ← specOf r source
    let target ← specOf r target
    if source.output = target.input then return ()
    else .error (.pipeMismatch pipe.source pipe.target target.input source.output)
  | _, _ => return ()

-- All kinds of blocks have to be known and all pipes have to fit.
def check (r : Registry) : Except ExecutionError Unit := do
  p.blocks.forM fun block => discard (specOf r block)
  p.pipes.forM (p.checkPipe r)

end Pipeline

end TableFlow
