import TableFlow.Regex.Matcher

namespace TableFlow

attribute [local instance (10000)] instPowNat

-- A pattern and its machine, which the pattern determines.
structure Regex where
  pattern : String
  expression : Regex.Expression
  parse_eq : Regex.parse pattern = .ok expression

namespace Regex

def compile (pattern : String) : Except Fault Regex :=
  match h : parse pattern with
  | .ok expression => .ok ⟨pattern, expression, h⟩
  | .error fault => .error fault

-- Expressions are the same when their patterns are.
theorem ext_pattern {a b : Regex} (h : a.pattern = b.pattern) : a = b := by
  obtain ⟨pattern, expression, parsed⟩ := a
  obtain ⟨pattern', expression', parsed'⟩ := b
  simp only at h
  subst h
  obtain rfl : expression = expression' := by
    have := parsed.symm.trans parsed'
    injection this
  rfl

instance : DecidableEq Regex := fun a b =>
  if h : a.pattern = b.pattern then isTrue (ext_pattern h)
  else isFalse fun e => h (congrArg Regex.pattern e)

-- Whether some part of the text matches.
def isMatch (r : Regex) (text : String) : Bool :=
  (r.expression.compile.search? text.toList.toArray 0).isSome

-- In a replacement text `$1`, `$name` and the same names in braces stand for what a group holds,
-- and two dollar signs for one.

inductive Piece where
  | literal (c : Char)
  | group (name : String)
deriving DecidableEq

def isReferenceChar (c : Char) : Bool := c.isAlphanum || c == '_'

-- Splits a replacement text into characters and references.
def pieces : Nat → List Char → List Piece
  | 0, _ => []
  | _, [] => []
  | fuel + 1, '$' :: rest =>
    match rest with
    | '$' :: rest => .literal '$' :: pieces fuel rest
    | '\x7b' :: named =>
      match named.dropWhile (· != '\x7d') with
      | _ :: after => .group (String.ofList (named.takeWhile (· != '\x7d'))) :: pieces fuel after
      | [] => .literal '$' :: pieces fuel rest
    | _ =>
      let name := rest.takeWhile isReferenceChar
      if name = [] then .literal '$' :: pieces fuel rest
      else .group (String.ofList name) :: pieces fuel (rest.dropWhile isReferenceChar)
  | fuel + 1, c :: rest => .literal c :: pieces fuel rest

-- The group that a reference means: by number, otherwise by name.
def groupIndex? (r : Regex) (name : String) : Option Nat :=
  let digits := match name.toList with | '+' :: digits => digits | digits => digits
  let n := Integer.ofDigits digits
  if digits ≠ [] ∧ digits.all Char.isDigit ∧ n < 2 ^ (64 : Nat) then some n
  else (r.expression.names.find? (·.1 == name)).map (·.2)

-- What a group holds after a match; nothing if it took no part in it.
def groupText (text : Array Char) (slots : Slots) (index : Nat) : List Char :=
  match slots.get? (2 * index), slots.get? (2 * index + 1) with
  | some first, some stop => (text.extract first stop).toList
  | _, _ => []

def expand (r : Regex) (text : Array Char) (slots : Slots) (replacement : List Piece) :
    List Char :=
  replacement.flatMap fun
    | .literal c => [c]
    | .group name => ((r.groupIndex? name).map (groupText text slots)).getD []

-- Replaces every match.
def replaceAll (r : Regex) (text replacement : String) : String :=
  let chars := text.toList.toArray
  let replacement := pieces (replacement.length + 1) replacement.toList
  let (done, stop) := (r.expression.compile.matches chars).foldl
    (fun (done, stop) slots =>
      let (first, next) := slots.bounds
      (done ++ (chars.extract stop first).toList ++ r.expand chars slots replacement, next))
    (([] : List Char), 0)
  String.ofList (done ++ (chars.extract stop chars.size).toList)

end Regex

end TableFlow
