import TableFlow.Integer
import TableFlow.Regex.Basic

namespace TableFlow.Regex

attribute [local instance (10000)] instPowNat

open Text

structure Flags where
  anyCase : Bool := false
  multiLine : Bool := false
  dotNewline : Bool := false
  lazy : Bool := false
  unicode : Bool := true
  crlf : Bool := false
  -- White space and comments do not count.
  spaced : Bool := false

structure Reader where
  rest : List Char
  flags : Flags
  -- Groups that capture, opened so far.
  groups : Nat
  names : List (String × Nat)
  -- The first part that has no meaning. It only counts if the whole pattern can be read.
  fault? : Option Fault

abbrev Parse := StateT Reader (Except Fault)

-- Drops a comment up to the end of its line.
def dropComment : List Char → List Char := fun text => (text.dropWhile (· != '\n')).drop 1

-- Drops white space and comments.
def dropSpace : Nat → List Char → List Char
  | 0, text => text
  | fuel + 1, text =>
    match text with
    | '#' :: rest => dropSpace fuel (dropComment rest)
    | c :: rest => if isBlank c then dropSpace fuel rest else text
    | [] => []

def skipSpace : Parse Unit := modify fun r =>
  if r.flags.spaced then { r with rest := dropSpace r.rest.length r.rest } else r

def peek : Parse (Option Char) := do return (← get).rest.head?

def advance (count : Nat) : Parse Unit := modify fun r => { r with rest := r.rest.drop count }

def fail {α : Type} (fault : Fault) : Parse α := throw fault

-- Notes a part of the pattern that has no meaning.
def note (fault : Fault) : Parse Unit := modify fun r => { r with fault? := r.fault?.or (some fault) }

-- Consumes the given text if the pattern goes on with it.
def accept (text : String) : Parse Bool := do
  let r ← get
  if text.toList.isPrefixOf r.rest then
    advance text.length
    return true
  return false

-- Consumes the longest run of characters of a kind.
def takeRun (p : Char → Bool) : Parse (List Char) := do
  let r ← get
  set { r with rest := r.rest.dropWhile p }
  return r.rest.takeWhile p

-- Goes on behind the current character, and behind white space if it does not count. Whether
-- there is more of the pattern is returned.
def advanceSpace : Parse Bool := do
  advance 1
  skipSpace
  return (← peek).isSome

-- A part of a pattern, and how many nodes stand in each other there.
structure Nested (α : Type) where
  value : α
  depth : Nat

-- The depth of some parts side by side: two or more of them need a node that holds them.
def heldDepth : List Nat → Nat
  | [] => 0
  | [depth] => depth
  | depths => depths.foldl max 0 + 1

-- What one escape, or one character outside of operators, stands for.
inductive Atom where
  | literal (c : Char)
  | look (condition : Look)
  | chars (set : CharClass)

-- Closes a set under change of case where the flags ask for it.
def withCase (set : CharClass) : Parse CharClass := do
  let flags := (← get).flags
  return if flags.anyCase then .anyCase set (!flags.unicode) else set

-- The complement of a set, which only exists among the characters of Unicode.
def complement (set : CharClass) : Parse CharClass := do
  if !(← get).flags.unicode then note .invalidUtf8
  return .negate set

def perlClass (c : Char) : Parse CharClass := do
  let unicode := (← get).flags.unicode
  let set := match c.toLower with
    | 'd' => if unicode then CharClass.named Property.digits else .asciiDigit
    | 's' => if unicode then CharClass.named Property.blank else .asciiSpace
    | _ => if unicode then CharClass.named Property.word else .asciiWord
  if c.isUpper then complement set else return set

def ofHex (digits : List Char) : Parse Char := do
  let n := hexValue (String.ofList digits)
  if n.isValidChar then return Char.ofNat n else fail .invalidHex

def readHexDigits : Nat → Parse (List Char)
  | 0 => return []
  | count + 1 => do
    match ← peek with
    | none => fail .unfinishedEscape
    | some c =>
      if (hexDigit? c).isNone then fail .invalidHexDigit
      else
        let _ ← advanceSpace
        return c :: (← readHexDigits count)

-- Reads digits up to the closing brace.
def readHexBraces : Nat → Parse (List Char)
  | 0 => fail .unfinishedEscape
  | fuel + 1 => do
    match ← peek with
    | none => fail .unfinishedEscape
    | some '\x7d' => return []
    | some c =>
      if (hexDigit? c).isNone then fail .invalidHexDigit
      else
        let _ ← advanceSpace
        return c :: (← readHexBraces fuel)

-- Reads a hexadecimal escape behind its letter: digits in braces, or as many as the letter asks for.
-- Two digits without braces stand for a byte outside of Unicode.
def readHex (width : Nat) : Parse Atom := do
  skipSpace
  match ← peek with
  | none => fail .unfinishedEscape
  | some '\x7b' =>
    let _ ← advanceSpace
    let digits ← readHexBraces (← get).rest.length
    let _ ← advanceSpace
    if digits.isEmpty then fail .emptyHex else return .literal (← ofHex digits)
  | some _ =>
    let c ← ofHex (← readHexDigits width)
    if width = 2 && 128 ≤ c.toNat && !(← get).flags.unicode then note .invalidUtf8
    return .literal c

-- The general categories and their groups, by name.
def category? (name : String) : Option CharClass :=
  let group (c : Char) := some (CharClass.named (Property.categoryGroup c))
  match Property.looseName name with
  | "any" => some (.negate .empty)
  | "ascii" => some (.span '\x00' '\x7F')
  | "assigned" => some (.named (Property.categories.flatMap (·.chars)))
  | "cn" | "unassigned" => some (.negate (.named (Property.categories.flatMap (·.chars))))
  | "cs" | "surrogate" => some .empty
  | "lc" | "casedletter" =>
    some (.named (Property.category "Lu" ++ Property.category "Ll" ++ Property.category "Lt"))
  | "l" | "letter" => group 'L'
  | "m" | "mark" | "combiningmark" => group 'M'
  | "n" | "number" => group 'N'
  | "p" | "punctuation" | "punct" => group 'P'
  | "s" | "symbol" => group 'S'
  | "z" | "separator" => group 'Z'
  | "c" | "other" => some (.negate (.named
      ((Property.categories.filter fun p => p.short.toList.head? != some 'C').flatMap (·.chars))))
  | "digit" => some (.named Property.digits)
  | "cntrl" => some (.named (Property.category "Cc"))
  | loose => (Property.lookup? Property.categories loose).map .named

def script? (name : String) : Option CharClass :=
  (Property.lookup? Property.scripts name).map .named

-- A property without a value: a binary property, a general category or a script.
def property? (name : String) : Option CharClass :=
  let loose := Property.looseName name
  let loose := if loose.startsWith "is" then String.ofList (loose.toList.drop 2) else loose
  ((Property.lookup? Property.binaries loose).map .named).or ((category? loose).or (script? loose))

-- A property with a value.
def propertyValue? (name value : String) : Except Fault CharClass :=
  let found? := match Property.looseName name with
    | "gc" | "generalcategory" => some (category? value)
    | "sc" | "script" | "scx" | "scriptextensions" => some (script? value)
    | _ => none
  match found? with
  | none => .error .unknownProperty
  | some none => .error .unknownPropertyValue
  | some (some set) => .ok set

-- The set that a name means, and whether it is the complement that is meant.
def namedSet (name : String) : Except Fault CharClass × Bool :=
  match name.splitOn "!=", name.splitOn ":", name.splitOn "=" with
  | [property, value], _, _ => (propertyValue? property value, true)
  | _, [property, value], _ => (propertyValue? property value, false)
  | _, _, [property, value] => (propertyValue? property value, false)
  | _, _, _ =>
    match property? name with
    | some set => (.ok set, false)
    | none => (.error .unknownProperty, false)

-- Reads a name up to the closing brace.
def readBraces : Nat → Parse (List Char)
  | 0 => fail .unfinishedEscape
  | fuel + 1 => do
    match ← peek with
    | none => fail .unfinishedEscape
    | some '\x7d' => return []
    | some c =>
      let _ ← advanceSpace
      return c :: (← readBraces fuel)

-- Reads the name of a property after `\p` or `\P`.
def readProperty (negated : Bool) : Parse CharClass := do
  skipSpace
  let name ← match ← peek with
    | none => fail .unfinishedEscape
    | some '\x7b' => do
      let _ ← advanceSpace
      let name ← readBraces (← get).rest.length
      advance 1
      pure (String.ofList name)
    | some '\\' => fail .invalidProperty
    | some c => do
      let _ ← advanceSpace
      pure (String.singleton c)
  if !(← get).flags.unicode then
    note .notUnicode
    return .empty
  match namedSet name with
  | (.error fault, _) =>
    note fault
    return .empty
  | (.ok set, flip) =>
    let set ← withCase set
    if negated != flip then complement set else return set

def isBoundaryChar (c : Char) : Bool := c.isAlpha || c == '-'

-- Reads the kind of a boundary up to the closing brace.
def readBoundaryName : Nat → Parse (List Char)
  | 0 => return []
  | fuel + 1 => do
    match ← peek with
    | some c =>
      if isBoundaryChar c then
        let _ ← advanceSpace
        return c :: (← readBoundaryName fuel)
      else return []
    | none => return []

-- Reads what follows `\b`: nothing, or the kind of boundary in braces. Braces that do not begin with
-- a letter are left to be read as a repetition.
def readBoundary (ascii : Bool) : Parse Atom := do
  let start ← get
  if (← peek) != some '\x7b' then return .look (.wordBoundary ascii)
  if !(← advanceSpace) then fail .unfinishedBoundary
  if !((← peek).any isBoundaryChar) then
    set start
    return .look (.wordBoundary ascii)
  let name ← readBoundaryName (← get).rest.length
  if (← peek) != some '\x7d' then fail .unclosedBoundary
  advance 1
  match String.ofList name with
  | "start" => return .look (.wordStart ascii)
  | "end" => return .look (.wordEnd ascii)
  | "start-half" => return .look (.wordStartHalf ascii)
  | "end-half" => return .look (.wordEndHalf ascii)
  | _ => fail .unknownBoundary

-- Reads an escape, after its backslash.
def readEscape : Parse Atom := do
  match ← peek with
  | none => fail .unfinishedEscape
  | some c =>
    advance 1
    let ascii := !(← get).flags.unicode
    match c with
    | 'x' => readHex 2
    | 'u' => readHex 4
    | 'U' => readHex 8
    | 'p' => return .chars (← readProperty false)
    | 'P' => return .chars (← readProperty true)
    | 'd' | 's' | 'w' | 'D' | 'S' | 'W' => return .chars (← perlClass c)
    | 'a' => return .literal '\x07'
    | 'f' => return .literal '\x0C'
    | 't' => return .literal '\t'
    | 'n' => return .literal '\n'
    | 'r' => return .literal '\r'
    | 'v' => return .literal '\x0B'
    | 'A' => return .look .textStart
    | 'z' => return .look .textEnd
    | 'b' => readBoundary ascii
    | 'B' => return .look (.notWordBoundary ascii)
    | '<' => return .look (.wordStart ascii)
    | '>' => return .look (.wordEnd ascii)
    | c =>
      if c.isDigit then fail .backreference
      else if c.toNat < 128 && !c.isAlpha then return .literal c
      else fail .unknownEscape

-- An operator between the two halves of a class.
inductive ClassOp where
  | inter
  | diff
  | symmDiff

def ClassOp.apply : ClassOp → CharClass → CharClass → CharClass
  | .inter, a, b => .inter a b
  | .diff, a, b => .diff a b
  | .symmDiff, a, b => .symmDiff a b

-- What has been read of a class: the half before the last operator, and the union after it with the
-- depths of its items.
structure ClassReader where
  pending : Option (ClassOp × Nested CharClass)
  current : CharClass
  depths : List Nat

namespace ClassReader

def close (p : ClassReader) : Nested CharClass :=
  let depth := heldDepth p.depths
  match p.pending with
  | none => ⟨p.current, depth⟩
  | some (op, before) => ⟨op.apply before.value p.current, max before.depth depth + 1⟩

def add (p : ClassReader) (item : Nested CharClass) : ClassReader :=
  { p with current := .union p.current item.value, depths := item.depth :: p.depths }

def operator (p : ClassReader) (op : ClassOp) : ClassReader := ⟨some (op, p.close), .empty, []⟩

end ClassReader

-- Reads one character or escape of a class.
def readClassAtom : Parse Atom := do
  match ← peek with
  | none => fail .unclosedClass
  | some '\\' => do advance 1; readEscape
  | some c => do advance 1; return .literal c

-- Notes a character of a class that is not one of bytes.
def noteWide (c : Char) : Parse Unit := do
  if 128 ≤ c.toNat && !(← get).flags.unicode then note .notUnicode

def Atom.toClass : Atom → Parse CharClass
  | .literal c => do
    noteWide c
    withCase (.single c)
  | .chars set => return set
  | .look _ => fail .classEscape

-- Reads a character, an escape or a range of a class.
def readClassRange : Parse CharClass := do
  let first ← readClassAtom
  skipSpace
  let r ← get
  match r.rest with
  | [] => fail .unclosedClass
  | '-' :: next =>
    match (if r.flags.spaced then dropSpace next.length next else next).head? with
    | some ']' | some '-' => first.toClass
    | _ =>
      advance 1
      skipSpace
      match first, ← readClassAtom with
      | .literal lo, .literal hi =>
        if hi < lo then fail .classRange
        else
          noteWide lo
          noteWide hi
          withCase (.span lo hi)
      | _, _ => fail .classRangeEnd
  | _ => first.toClass

-- Reads `[:name:]`, or consumes nothing.
def readAsciiClass : Parse (Option CharClass) := do
  let start ← get
  if ← accept "[:" then
    let negated ← accept "^"
    let name ← takeRun (· != ':')
    if ← accept ":]" then
      match CharClass.ascii? (String.ofList name) with
      | some set =>
        let set ← withCase set
        return some (← if negated then complement set else pure set)
      | none => pure ()
  set start
  return none

-- Reads hyphens at the start of a class, where they stand for themselves.
def readHyphens : Nat → ClassReader → Parse ClassReader
  | 0, p => return p
  | fuel + 1, p => do
    if ← accept "-" then
      skipSpace
      readHyphens fuel (p.add ⟨.single '-', 0⟩)
    else return p

-- A call is given as many steps as the pattern has characters left, and each level consumes one.
mutual

-- Reads a class, after its opening bracket.
def readClass : Nat → Parse (Nested CharClass)
  | 0 => fail .unclosedClass
  | fuel + 1 => do
    skipSpace
    let negated ← accept "^"
    skipSpace
    let p ← readHyphens (← get).rest.length ⟨none, .empty, []⟩
    let literal := p.depths.isEmpty && (← peek) == some ']'
    if literal then advance 1
    let set ← readClassItems fuel (if literal then p.add ⟨.single ']', 0⟩ else p)
    return ⟨← if negated then complement set.value else pure set.value, set.depth + 1⟩

-- Reads the items of a class up to its closing bracket.
def readClassItems : Nat → ClassReader → Parse (Nested CharClass)
  | 0, _ => fail .unclosedClass
  | fuel + 1, p => do
    skipSpace
    match (← get).rest with
    | [] => fail .unclosedClass
    | ']' :: _ => do advance 1; return p.close
    | '&' :: '&' :: _ => do advance 2; readClassItems fuel (p.operator .inter)
    | '-' :: '-' :: _ => do advance 2; readClassItems fuel (p.operator .diff)
    | '~' :: '~' :: _ => do advance 2; readClassItems fuel (p.operator .symmDiff)
    | '[' :: _ => do
      match ← readAsciiClass with
      | some set => readClassItems fuel (p.add ⟨set, 0⟩)
      | none =>
        advance 1
        let set ← readClass fuel
        readClassItems fuel (p.add set)
    | _ => do
      let set ← readClassRange
      readClassItems fuel (p.add ⟨set, 0⟩)

end

-- One flag, switched on or off.
def Flags.change? (flags : Flags) (on : Bool) : Char → Option Flags
  | 'i' => some { flags with anyCase := on }
  | 'm' => some { flags with multiLine := on }
  | 's' => some { flags with dotNewline := on }
  | 'U' => some { flags with lazy := on }
  | 'u' => some { flags with unicode := on }
  | 'R' => some { flags with crlf := on }
  | 'x' => some { flags with spaced := on }
  | _ => none

-- Reads flags up to the `:` or `)` that ends them. A flag may be named once, and so may the hyphen
-- that switches those behind it off; `seen` has what has been named, last first.
def readFlags : Nat → List Char → Flags → Parse Flags
  | 0, _, _ => fail .unfinishedFlags
  | fuel + 1, seen, flags => do
    match ← peek with
    | none => fail .unfinishedFlags
    | some c =>
      if c = ':' ∨ c = ')' then
        if seen.head? = some '-' then fail .danglingNegation else return flags
      else if c = '-' then
        if c ∈ seen then fail .repeatedNegation
        else
          advance 1
          readFlags fuel (c :: seen) flags
      else match flags.change? ('-' ∉ seen) c with
        | none => fail .unknownFlag
        | some flags =>
          if c ∈ seen then fail .duplicateFlag
          else
            advance 1
            readFlags fuel (c :: seen) flags

def isNameChar (first : Bool) (c : Char) : Bool :=
  if first then c == '_' || Property.alphabetic.contains c
  else c == '_' || c == '.' || c == '[' || c == ']' || Property.alphanumeric.contains c

-- Reads the name of a group up to the `>` that ends it.
def readGroupName : Parse String := do
  let name := (← get).rest.takeWhile (· != '>')
  let valid := match name with
    | [] => true
    | c :: rest => isNameChar true c && rest.all (isNameChar false)
  advance name.length
  if !valid then fail .invalidGroupName
  else if !(← accept ">") then fail .unclosedGroupName
  else if name.isEmpty then fail .emptyGroupName
  else
    let name := String.ofList name
    if (← get).names.any (·.1 == name) then fail .duplicateGroupName else return name

def openGroup : Parse Nat := do
  let r ← get
  set { r with groups := r.groups + 1 }
  return r.groups + 1

-- What an opening parenthesis starts: a group, or flags for the rest of the one around it.
inductive Opening where
  | captured (index : Nat)
  | plain
  | setFlags

-- Reads what follows an opening parenthesis.
def readOpening : Parse Opening := do
  skipSpace
  if (← accept "?=") || (← accept "?!") || (← accept "?<=") || (← accept "?<!") then
    fail .lookAround
  else if (← accept "?P<") || (← accept "?<") then
    let index ← openGroup
    let name ← readGroupName
    modify fun r => { r with names := r.names ++ [(name, index)] }
    return .captured index
  else if ← accept "?" then
    match ← peek with
    | none => fail .unclosedGroup
    | some ')' => fail .missingOperand
    | some _ =>
      let r ← get
      let flags ← readFlags r.rest.length [] r.flags
      modify fun r => { r with flags }
      let close ← accept ")"
      if close then return .setFlags
      else
        advance 1
        return .plain
  else return .captured (← openGroup)

def readDigits : Nat → Parse (List Char)
  | 0 => return []
  | fuel + 1 => do
    match ← peek with
    | some c =>
      if c.isDigit then
        let _ ← advanceSpace
        return c :: (← readDigits fuel)
      else return []
    | none => return []

-- Reads a number of a repetition; white space around it does not count. Without one the fault is
-- left to the caller, who may find another one first.
def readCount? : Parse (Except Fault Nat) := do
  let _ ← takeRun isBlank
  let digits ← readDigits (← get).rest.length
  let _ ← takeRun isBlank
  skipSpace
  let n := Integer.ofDigits digits
  return if digits.isEmpty then .error .missingCount
    else if n < 2 ^ (32 : Nat) then .ok n
    else .error .invalidNumber

def count (count? : Except Fault Nat) : Parse Nat :=
  match count? with
  | .ok n => return n
  | .error fault => fail fault

-- Reads the bounds of a repetition, after the opening brace.
def readBounds : Parse (Nat × Option Nat) := do
  skipSpace
  if (← peek).isNone then fail .unclosedRepetition
  let least? ← readCount?
  let bounds ← match ← peek with
    | none => fail .unclosedRepetition
    | some ',' => do
      if !(← advanceSpace) then fail .unclosedRepetition
      let least ← count least?
      if (← peek) == some '\x7d' then pure (least, none)
      else
        let most ← count (← readCount?)
        pure (least, some most)
    | some _ => do
      let least ← count least?
      pure (least, some least)
  if !(← accept "\x7d") then fail .unclosedRepetition
  return bounds

-- Reads a question mark, which swaps whether a repetition takes much or little.
def readGreed : Parse Bool := do
  let swapped ← accept "?"
  return swapped == (← get).flags.lazy

-- The items of a sequence so far, last first. Flags take part as `none`.
abbrev Items := List (Nested (Option Node))

def Items.toNode (items : Items) : Nested Node :=
  let node := match items.reverse.filterMap (·.value) with
    | [] => .empty
    | first :: rest => rest.foldl .seq first
  ⟨node, heldDepth (items.map (·.depth))⟩

-- The alternatives that come before the last one, last first, and the last one.
def alternatives (before : List (Nested Node)) (last : Nested Node) : Nested Node :=
  ⟨before.foldl (fun later node => .alt node.value later) last.value,
    heldDepth (last.depth :: before.map (·.depth))⟩

-- Puts a repetition around the last item. Its operand has to be there before its bounds are read.
def repeatLast (items : Items) (bounds : Parse (Nat × Option Nat)) : Parse Items :=
  match items with
  | ⟨some node, depth⟩ :: rest => do
    let (least, most) ← bounds
    let greedy ← readGreed
    if most.any (· < least) then fail .invalidRepetition
    else return ⟨some (.repeated node least most greedy), depth + 1⟩ :: rest
  | _ => fail .missingOperand

-- The node of a single character, escape or operator without operand.
def readPrimitive (c : Char) : Parse Node := do
  let flags := (← get).flags
  match c with
  | '.' =>
    if !flags.unicode then note .invalidUtf8
    if flags.dotNewline then return .char (.negate .empty)
    else if flags.crlf then return .char (.negate (.union (.single '\n') (.single '\r')))
    else return .char (.negate (.single '\n'))
  | '^' => return .look (if flags.multiLine then .lineStart flags.crlf else .textStart)
  | '$' => return .look (if flags.multiLine then .lineEnd flags.crlf else .textEnd)
  | '\\' =>
    match ← readEscape with
    | .literal c => return .char (← withCase (.single c))
    | .chars set => return .char set
    | .look condition => return .look condition
  | c => return .char (← withCase (.single c))

-- Reads alternatives up to the end of the group; `depth` counts the groups around them. The last
-- two arguments are the alternatives before the current one, last first, and its items.
def readExpression : Nat → Nat → List (Nested Node) → Items → Parse (Nested Node)
  | 0, _, _, _ => fail .unclosedGroup
  | fuel + 1, depth, before, items => do
    skipSpace
    let finish := alternatives before items.toNode
    match ← peek with
    | none => if depth = 0 then return finish else fail .unclosedGroup
    | some c =>
      match c with
      | ')' =>
        advance 1
        if depth = 0 then fail .unopenedGroup else return finish
      | '|' =>
        advance 1
        readExpression fuel depth (items.toNode :: before) []
      | '(' =>
        advance 1
        let flags := (← get).flags
        match ← readOpening with
        | .setFlags => readExpression fuel depth before (⟨none, 0⟩ :: items)
        | opening =>
          let body ← readExpression fuel (depth + 1) [] []
          modify fun r => { r with flags }
          let node := match opening with
            | .captured index => .group index body.value
            | _ => body.value
          readExpression fuel depth before (⟨some node, body.depth + 1⟩ :: items)
      | '[' =>
        advance 1
        let set ← readClass (fuel + 1)
        readExpression fuel depth before (⟨some (.char set.value), set.depth⟩ :: items)
      | '?' =>
        let bounds := do advance 1; return (0, some 1)
        readExpression fuel depth before (← repeatLast items bounds)
      | '*' =>
        let bounds := do advance 1; return (0, none)
        readExpression fuel depth before (← repeatLast items bounds)
      | '+' =>
        let bounds := do advance 1; return (1, none)
        readExpression fuel depth before (← repeatLast items bounds)
      | '\x7b' =>
        let bounds := do
          advance 1
          let bounds ← readBounds
          skipSpace
          return bounds
        readExpression fuel depth before (← repeatLast items bounds)
      | c =>
        advance 1
        let node ← readPrimitive c
        readExpression fuel depth before (⟨some node, 0⟩ :: items)

-- A pattern that has been read: its tree, the number of its groups and their names.
structure Expression where
  root : Node
  groups : Nat
  names : List (String × Nat)

-- The greatest size of a pattern: ten mebibytes, at 32 bytes for a step.
def maxWeight : Nat := 10 * 2 ^ (20 : Nat) / 32

-- Reads a pattern.
def parse (pattern : String) : Except Fault Expression := do
  let text := pattern.toList
  let (root, r) ← (readExpression (text.length + 1) 0 [] []).run ⟨text, {}, 0, [], none⟩
  if nestLimit < root.depth then throw .nestLimit
  if let some fault := r.fault? then throw fault
  if maxWeight < root.value.weight then throw .tooLarge
  return ⟨root.value, r.groups, r.names⟩

end TableFlow.Regex
