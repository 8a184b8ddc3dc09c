import TableFlow.Pipeline.Schedule

namespace TableFlow

-- Outputs that wait for the blocks that take them. An output is held until as many blocks have
-- taken it as the schedule has children of its block.
structure Pending where
  outputs : List (String × Artifact)
  -- How many blocks have yet to take the output of a block.
  consumers : List (String × Nat)

namespace Pending

-- One more consumer for each block that has the name as its parent.
def countConsumers (schedule : List Scheduled) (name : String) : Nat :=
  schedule.countP (·.parent == some name)

def ofSchedule (schedule : List Scheduled) : Pending :=
  ⟨[], (schedule.filterMap (·.parent)).eraseDups.map fun name =>
    (name, countConsumers schedule name)⟩

def output? (p : Pending) (name : String) : Option Artifact :=
  (p.outputs.find? (·.1 == name)).map (·.2)

def remaining (p : Pending) (name : String) : Nat :=
  ((p.consumers.find? (·.1 == name)).map (·.2)).getD 0

-- Holds an output. One that no block is going to take is not kept.
def store (p : Pending) (name : String) (output : Artifact) : Pending :=
  if 0 < p.remaining name then { p with outputs := place Prod.fst (name, output) p.outputs } else p

-- The output of a block for one of its children. The last child takes it away.
def take (p : Pending) (name : String) : Artifact × Pending :=
  let remaining := p.remaining name - 1
  let output := (p.output? name).getD .none
  let consumers := p.consumers.map fun c => if c.1 = name then (name, remaining) else c
  let outputs := if remaining = 0 then p.outputs.filter (·.1 != name) else p.outputs
  (output, ⟨outputs, consumers⟩)

end Pending

end TableFlow
