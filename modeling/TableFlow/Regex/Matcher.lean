import TableFlow.Regex.Parser

namespace TableFlow.Regex

-- A pattern becomes a program of elementary steps, and a search tries the alternatives of the
-- program in their order of preference.
inductive Step where
  | accept
  | char (chars : CharClass) (next : Nat)
  | look (condition : Look) (next : Nat)
  | jump (next : Nat)
  | split (preferred other : Nat)
  -- Notes the position as the bound of a group: slot `2 · index` for its start and the one after
  -- it for its end.
  | save (slot next : Nat)

abbrev Program := Array Step

-- Adds a step and gives its place.
def Program.emit (p : Program) (step : Step) : Program × Nat := (p.push step, p.size)

def Program.branch (p : Program) (greedy : Bool) (body exit : Nat) : Program × Nat :=
  Program.emit p (if greedy then .split body exit else .split exit body)

-- Adds the steps of up to `count` optional copies in a row, each inside the one before it. The
-- continuation adds one copy.
def Program.optional (copy : Program → Nat → Program × Nat) (greedy : Bool) (exit : Nat) :
    Nat → Program → Program × Nat
  | 0, p => (p, exit)
  | count + 1, p =>
    let (p, next) := optional copy greedy exit count p
    let (p, body) := copy p next
    Program.branch p greedy body exit

-- Adds the steps of `count` copies in a row.
def Program.copies (copy : Program → Nat → Program × Nat) : Nat → Program → Nat → Program × Nat
  | 0, p, next => (p, next)
  | count + 1, p, next =>
    let (p, next) := copies copy count p next
    copy p next

-- Adds the steps of a node in front of the step `next` and gives the place of the first.
def Program.add : Node → Program → Nat → Program × Nat
  | .empty, p, next => (p, next)
  | .char chars, p, next => Program.emit p (.char chars next)
  | .look condition, p, next => Program.emit p (.look condition next)
  | .group index body, p, next =>
    let (p, last) := Program.emit p (.save (2 * index + 1) next)
    let (p, first) := add body p last
    Program.emit p (.save (2 * index) first)
  | .seq a b, p, next =>
    let (p, middle) := add b p next
    add a p middle
  | .alt a b, p, next =>
    let (p, second) := add b p next
    let (p, first) := add a p next
    Program.emit p (.split first second)
  | .repeated body least (some most) greedy, p, next =>
    let (p, rest) := optional (add body) greedy next (most - least) p
    copies (add body) least p rest
  | .repeated body least none greedy, p, next =>
    -- The step that decides on another round comes first, as the body has to lead back to it.
    let (p, again) := Program.emit p (.jump next)
    let (p, first) := add body p again
    let p := p.setIfInBounds again (if greedy then .split first next else .split next first)
    if least = 0 then if body.nullable then Program.branch p greedy first next else (p, again)
    else copies (add body) (least - 1) p first

def Expression.program (e : Expression) : Program × Nat :=
  let (p, last) := Program.emit #[] .accept
  let (p, last) := Program.emit p (.save 1 last)
  let (p, first) := Program.add e.root p last
  Program.emit p (.save 0 first)

-- Positions noted by slot.
abbrev Slots := List (Nat × Nat)

def Slots.get? (slots : Slots) (slot : Nat) : Option Nat :=
  (slots.find? (·.1 == slot)).map (·.2)

-- A step still to be tried, the position at which to try it and what has been noted before.
structure Trial where
  step : Nat
  position : Nat
  slots : Slots

-- Where a trial leads, most preferred first.
def Trial.successors (t : Trial) (step : Step) (text : Array Char) : List Trial :=
  match step with
  | .accept => []
  | .char chars next =>
    match text[t.position]? with
    | some c => if chars.contains c then [⟨next, t.position + 1, t.slots⟩] else []
    | none => []
  | .look condition next =>
    let before := if t.position = 0 then none else text[t.position - 1]?
    if condition.holds before text[t.position]? then [{ t with step := next }] else []
  | .jump next => [{ t with step := next }]
  | .split preferred other => [{ t with step := preferred }, { t with step := other }]
  | .save slot next => [⟨next, t.position, (slot, t.position) :: t.slots⟩]

-- Tries steps in order until one accepts. `tried` marks the pairs of step and position met.
def explore (program : Program) (text : Array Char) :
    Nat → Array Bool → List Trial → Option Slots
  | 0, _, _ => none
  | _, _, [] => none
  | fuel + 1, tried, t :: rest =>
    let mark := t.step * (text.size + 1) + t.position
    if tried.getD mark true then explore program text fuel tried rest
    else
      match program[t.step]? with
      | none => none
      | some .accept => some t.slots
      | some step =>
        explore program text fuel (tried.setIfInBounds mark true) (t.successors step text ++ rest)

-- A compiled pattern.
structure Machine where
  expression : Expression
  program : Program
  start : Nat

def Expression.compile (e : Expression) : Machine :=
  let (program, start) := e.program
  ⟨e, program, start⟩

-- The match that starts at a position, if there is one. Every trial that is not a repetition of
-- an earlier one marks a pair and adds at most two trials, which bounds their number.
def Machine.matchAt? (m : Machine) (text : Array Char) (position : Nat) : Option Slots :=
  let pairs := m.program.size * (text.size + 1)
  explore m.program text (2 * pairs + 2) (Array.replicate pairs false) [⟨m.start, position, []⟩]

-- The first match that starts at a position or behind it.
def Machine.search? (m : Machine) (text : Array Char) (position : Nat) : Option Slots :=
  (List.range' position (text.size + 1 - position)).findSome? (m.matchAt? text)

-- The bounds of a match.
def Slots.bounds (slots : Slots) : Nat × Nat :=
  ((slots.get? 0).getD 0, (slots.get? 1).getD 0)

-- All matches from left to right. A match does not start before the last one ends, and an empty
-- match does not stand at the end of the last one.
def Machine.matches (m : Machine) (text : Array Char) : List Slots :=
  go (text.size + 2) 0 none
where
  go : Nat → Nat → Option Nat → List Slots
    | 0, _, _ => []
    | fuel + 1, start, last =>
      match m.search? text start with
      | none => []
      | some slots =>
        let (first, stop) := slots.bounds
        if first = stop ∧ some stop = last then
          if start < text.size then
            match m.search? text (start + 1) with
            | none => []
            | some slots => slots :: go fuel slots.bounds.2 (some slots.bounds.2)
          else []
        else slots :: go fuel stop (some stop)

end TableFlow.Regex
