import TableFlow.Execution.Basic
import TableFlow.Settings

namespace TableFlow

inductive Node where
  | block (block : Block)
  | constraint (constraint : Constraint)
  | transform (transform : Transform)

namespace Node

def name : Node → String
  | .block b => b.name
  | .constraint c => c.name
  | .transform t => t.name

def kind : Node → String
  | .block _ => "block"
  | .constraint _ => "constraint"
  | .transform _ => "transform"

def location : Node → Location
  | .block b => b.location
  | .constraint c => c.location
  | .transform t => t.location

def property? : Node → String → Option Property
  | .block b, name => b.property? name
  | .constraint c, name => c.property? name
  | .transform _, _ => none

def anchor (n : Node) : Anchor := .ofNode (n.kind ++ " " ++ n.name) n.location

def text (n : Node) : String := n.kind ++ " `" ++ n.name ++ "`"

end Node

-- A property that a kind of block or constraint has. It must be given if there is no default.
structure PropertySpec where
  name : String
  default? : Option Value

-- What a kind of block takes and makes, and its properties.
structure BlockSpec where
  kind : String
  input : Artifact.Kind
  output : Artifact.Kind
  properties : List PropertySpec

structure ConstraintSpec where
  name : String
  properties : List PropertySpec

-- Where an execution is: the nodes that have been entered, in which run, and what the kinds of blocks
-- and constraints of the run take.
structure Site where
  pipeline : Pipeline
  settings : Settings
  blocks : List BlockSpec
  constraints : List ConstraintSpec
  -- The nodes that have been entered, the last one first.
  nodes : List Node

namespace Site

def enter (s : Site) (node : Node) : Site := { s with nodes := node :: s.nodes }

-- Leaves the node that was entered last.
def leave (s : Site) : Site := { s with nodes := s.nodes.tail }

def depth (s : Site) : Nat := s.nodes.length

def logger (s : Site) : Logger :=
  ⟨match s.nodes with | node :: _ => node.name | [] => s.pipeline.name, s.depth⟩

-- The current node, or the pipeline outside of all nodes.
def anchor (s : Site) : Anchor :=
  match s.nodes with
  | node :: _ => node.anchor
  | [] => .ofNode ("pipeline " ++ s.pipeline.name) s.pipeline.location

-- A property of the current node, which has the location of the node if it is not given.
def propertyAnchor (s : Site) (name : String) : Anchor :=
  let property? := s.nodes.head?.bind (·.property? name)
  let location := (property?.map (·.location)).getD s.anchor.location
  { s.anchor with property := some name, location }

-- The properties that the kind of a node declares.
def specs (s : Site) : Node → List PropertySpec
  | .block b => ((s.blocks.find? (·.kind == b.kind)).map (·.properties)).getD []
  | .constraint (.typed _ kind _ _) =>
    ((s.constraints.find? (·.name == kind)).map (·.properties)).getD []
  | .constraint (.expression ..) => []
  | .transform _ => []

def default? (s : Site) (node : Node) (property : String) : Option Value :=
  ((s.specs node).find? (·.name == property)).bind (·.default?)

-- Why a property without a value has none.
def propertyError (type : ValueType) (diagnostics : List Diagnostic) : PropertyValue → BlockError
  | .runtimeParameter name => .parameter name type.name
  | .expression _ => .evaluation (diagnostics.map (·.message))

-- The value of a property that is given.
def givenProperty (s : Site) (type : ValueType) (p : Property) : Execution Value :=
  match p.evaluate .lazy .empty s.settings.parameters type with
  | .error violation => .violate violation
  | .ok outcome =>
    match outcome.value with
    | some value => pure value
    | none =>
      .fail (.block (propertyError type outcome.diagnostics p.value) (s.propertyAnchor p.name))

-- The default of a property of a node.
def defaultProperty (s : Site) (node : Node) (name : String) (type : ValueType) :
    Execution Value :=
  match s.default? node name with
  | none => .violate (.noDefault name node.text)
  | some value =>
    let value := type.normalize value
    if type.represents value then pure value
    else .violate (.invalidDefault value.render name type.name)

-- The value of a property of the current node, as a value of the type.
def property (s : Site) (name : String) (type : ValueType) : Execution Value :=
  match s.nodes with
  | [] => .violate (.noNode name)
  | node :: _ =>
    match node.property? name with
    | some p => s.givenProperty type p
    | none => s.defaultProperty node name type

-- The value of a property of the current node. An error is logged and leaves it without one.
def property? (s : Site) (name : String) (type : ValueType) : Execution (Option Value) :=
  let x := s.property name type
  match x.result with
  | .ok value => ⟨x.log, .ok (some value)⟩
  | .error (.error error) => ⟨x.log ++ [s.logger.error error.message], .ok none⟩
  | .error (.violation violation) => ⟨x.log, .error (.violation violation)⟩

end Site

-- A kind of constraint. Its test is told where it is made: the constraint is the current node.
structure ConstraintKind extends ConstraintSpec where
  test : Site → Value → Execution Bool

-- A place in an execution, together with the kinds of constraints that the run knows.
structure Context extends Site where
  kinds : List ConstraintKind
  constraints_eq : constraints = kinds.map (·.toConstraintSpec) := by rfl

namespace Context

def enter (c : Context) (node : Node) : Context := { c with nodes := node :: c.nodes }

def leave (c : Context) : Context := { c with nodes := c.nodes.tail }

def constraintKind? (c : Context) (name : String) : Option ConstraintKind :=
  c.kinds.find? (·.name == name)

end Context

end TableFlow
