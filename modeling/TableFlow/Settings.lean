import TableFlow.Evaluation.Scope
import TableFlow.Settings.Json
import TableFlow.Table.Error

namespace TableFlow

attribute [local instance (10000)] instPowNat

-- How much of a table is logged.
inductive Granularity where
  -- The first rows.
  | peek
  | exhaustive
  | skip
deriving DecidableEq

def Granularity.name : Granularity → String
  | .peek => "peek"
  | .exhaustive => "exhaustive"
  | .skip => "skip"

-- The blocks whose results are logged.
inductive DebugTargets where
  | all
  | blocks (names : List String)
deriving DecidableEq

def DebugTargets.includes : DebugTargets → String → Bool
  | .all, _ => true
  | .blocks names, block => decide (block ∈ names)

-- Members that are missing have defaults; unknown members are ignored, but a known one must not be
-- given twice.
structure Settings where
  backend : Backend
  debug : Bool
  granularity : Granularity
  targets : DebugTargets
  -- The number of rows shown when only the first ones are.
  peekRows : Nat
  parameters : Parameters

namespace Settings

def standard : Settings := ⟨.array, false, .peek, .all, 10, .empty⟩

-- Reads the name of a choice, or an object with that name as its key and null as its value.
def readChoice {α : Type} (choices : List (String × α)) : Json → Option α
  | .string (some name) => (choices.find? (·.1 == name)).map (·.2)
  | .object [(some name, .null)] => (choices.find? (·.1 == name)).map (·.2)
  | _ => none

def readText : Json → Option String
  | .string text => text
  | _ => none

def readBackend : Json → Option Backend :=
  readChoice ([.array, .columnar].map fun b => (b.name, b))

def readDebug : Json → Option Bool
  | .boolean b => some b
  | _ => none

def readGranularity : Json → Option Granularity :=
  readChoice ([.peek, .exhaustive, .skip].map fun g => (g.name, g))

def readTargets : Json → Option DebugTargets
  | .object [(some "blocks", .array names)] => (names.mapM readText).map .blocks
  | json => readChoice [("all", .all)] json

def readPeekRows : Json → Option Nat
  | .number (some n) => if n < 2 ^ (64 : Nat) then some n else none
  | _ => none

def readParameter : Option String × Json → Option (String × String)
  | (some name, .string (some text)) => some (name, text)
  | _ => none

-- The last text given for a parameter counts.
def readParameters : Json → Option Parameters
  | .object members => do
    let entries ← members.mapM readParameter
    return ⟨entries.foldl (fun entries entry => place Prod.fst entry entries) []⟩
  | _ => none

-- The readers of the fields, in the order in which an array holds them.
def fields : List (String × (Json → Settings → Option Settings)) :=
  [("backend", fun json s => (readBackend json).map fun backend => { s with backend }),
    ("debug", fun json s => (readDebug json).map fun debug => { s with debug }),
    ("debug_granularity", fun json s =>
      (readGranularity json).map fun granularity => { s with granularity }),
    ("debug_targets", fun json s => (readTargets json).map fun targets => { s with targets }),
    ("peek_rows", fun json s => (readPeekRows json).map fun peekRows => { s with peekRows }),
    ("runtime_parameters", fun json s =>
      (readParameters json).map fun parameters => { s with parameters })]

-- Reads the members of an object; `seen` are the fields that have been read.
def readMembers : List (Option String × Json) → List String → Settings → Option Settings
  | [], _, s => some s
  | (none, _) :: _, _, _ => none
  | (some key, json) :: members, seen, s =>
    match fields.find? (·.1 == key) with
    | none => readMembers members seen s
    | some (_, read) => do
      if key ∈ seen then none
      else readMembers members (key :: seen) (← read json s)

def ofJson? : Json → Option Settings
  | .object members => readMembers members [] standard
  | .array items =>
    if items.length ≤ fields.length then
      (fields.zip items).foldlM (fun s (field, json) => field.2 json s) standard
    else none
  | _ => none

def ofText? (text : String) : Option Settings := (Json.parse? text).bind ofJson?

end Settings

end TableFlow
