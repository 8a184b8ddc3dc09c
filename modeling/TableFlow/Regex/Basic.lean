import TableFlow.Text.Case
import TableFlow.Text.Property

namespace TableFlow.Regex

open Text

-- A set of characters, as a pattern describes it.
inductive CharClass where
  | span (lo hi : Char)
  | named (chars : CharSet)
  | union (a b : CharClass)
  | inter (a b : CharClass)
  | diff (a b : CharClass)
  | symmDiff (a b : CharClass)
  | negate (a : CharClass)
  -- Closes a set under change of case; the second argument keeps to the ASCII letters.
  | anyCase (a : CharClass) (ascii : Bool)

namespace CharClass

def empty : CharClass := .named []

def single (c : Char) : CharClass := .span c c

-- The character itself and the same letter in the other case.
def asciiVariants (c : Char) : List Char := [c, c.toLower, c.toUpper]

def contains : CharClass → Char → Bool
  | .span lo hi, c => decide (lo ≤ c ∧ c ≤ hi)
  | .named chars, c => chars.contains c
  | .union a b, c => a.contains c || b.contains c
  | .inter a b, c => a.contains c && b.contains c
  | .diff a b, c => a.contains c && !b.contains c
  | .symmDiff a b, c => a.contains c != b.contains c
  | .negate a, c => !a.contains c
  | .anyCase a ascii, c => (if ascii then asciiVariants c else caseVariants c).any a.contains

-- A bound on the number of steps that it takes to match one encoded character of the class.
def weight : CharClass → Nat
  | .span _ _ => 1
  | .named chars => 2 * chars.runCount
  | .union a b => a.weight + b.weight
  | .inter a b => a.weight + b.weight
  | .diff a b => a.weight + b.weight
  | .symmDiff a b => a.weight + b.weight
  | .negate a => a.weight + 1
  | .anyCase a _ => 2 * a.weight

def ofSpans (spans : List (Char × Char)) : CharClass :=
  spans.foldl (fun a s => .union a (.span s.1 s.2)) empty

def asciiWord : CharClass := ofSpans [('0', '9'), ('A', 'Z'), ('_', '_'), ('a', 'z')]

def asciiDigit : CharClass := .span '0' '9'

def asciiSpace : CharClass := ofSpans [('\t', '\r'), (' ', ' ')]

def asciiLetters : CharClass := ofSpans [('A', 'Z'), ('a', 'z')]

-- The sets that may be named between `[:` and `:]`.
def ascii? : String → Option CharClass
  | "alnum" => some (.union asciiDigit asciiLetters)
  | "alpha" => some asciiLetters
  | "ascii" => some (.span '\x00' '\x7F')
  | "blank" => some (ofSpans [('\t', '\t'), (' ', ' ')])
  | "cntrl" => some (ofSpans [('\x00', '\x1F'), ('\x7F', '\x7F')])
  | "digit" => some asciiDigit
  | "graph" => some (.span '!' '~')
  | "lower" => some (.span 'a' 'z')
  | "print" => some (.span ' ' '~')
  | "punct" => some (ofSpans [('!', '/'), (':', '@'), ('[', '\x60'), ('\x7b', '~')])
  | "space" => some asciiSpace
  | "upper" => some (.span 'A' 'Z')
  | "word" => some asciiWord
  | "xdigit" => some (ofSpans [('0', '9'), ('A', 'F'), ('a', 'f')])
  | _ => none

end CharClass

-- A condition on the characters around a position.
inductive Look where
  | textStart
  | textEnd
  | lineStart (crlf : Bool)
  | lineEnd (crlf : Bool)
  | wordBoundary (ascii : Bool)
  | notWordBoundary (ascii : Bool)
  | wordStart (ascii : Bool)
  | wordEnd (ascii : Bool)
  | wordStartHalf (ascii : Bool)
  | wordEndHalf (ascii : Bool)
deriving DecidableEq

def isWordChar (ascii : Bool) (c : Char) : Bool :=
  if ascii || c.toNat < 128 then CharClass.asciiWord.contains c else Property.word.contains c

-- Whether a condition holds between the two characters given, where there are any.
def Look.holds (look : Look) (before after : Option Char) : Bool :=
  let isWord (ascii : Bool) (c : Option Char) := c.any (isWordChar ascii)
  match look with
  | .textStart => before.isNone
  | .textEnd => after.isNone
  | .lineStart false => before.all (· == '\n')
  | .lineEnd false => after.all (· == '\n')
  | .lineStart true => before.all fun c => c == '\n' || (c == '\r' && after != some '\n')
  | .lineEnd true => after.all fun c => c == '\r' || (c == '\n' && before != some '\r')
  | .wordBoundary a => isWord a before != isWord a after
  | .notWordBoundary a => isWord a before == isWord a after
  | .wordStart a => !isWord a before && isWord a after
  | .wordEnd a => isWord a before && !isWord a after
  | .wordStartHalf a => !isWord a before
  | .wordEndHalf a => !isWord a after

inductive Node where
  | empty
  | char (chars : CharClass)
  | look (condition : Look)
  | group (index : Nat) (body : Node)
  | seq (first second : Node)
  -- Tries the first alternative before the second.
  | alt (first second : Node)
  | repeated (body : Node) (least : Nat) (most : Option Nat) (greedy : Bool)

-- Whether a node can match without consuming a character.
def Node.nullable : Node → Bool
  | .empty => true
  | .char _ => false
  | .look _ => true
  | .group _ body => body.nullable
  | .seq a b => a.nullable && b.nullable
  | .alt a b => a.nullable || b.nullable
  | .repeated body least _ _ => least == 0 || body.nullable

-- The size of a node with its repetitions written out.
def Node.weight : Node → Nat
  | .empty => 1
  | .char chars => max 1 chars.weight
  | .look _ => 1
  | .group _ body => body.weight + 2
  | .seq a b => a.weight + b.weight
  | .alt a b => a.weight + b.weight + 1
  | .repeated body least (some most) _ => body.weight * least + (body.weight + 1) * (most - least)
  | .repeated body least none _ => body.weight * max 1 least + 1

-- Why a pattern is refused.
inductive Fault where
  | classEscape
  | classRange
  | classRangeEnd
  | unclosedClass
  | invalidNumber
  | emptyHex
  | invalidHex
  | invalidHexDigit
  | unfinishedEscape
  | unknownEscape
  | danglingNegation
  | duplicateFlag
  | repeatedNegation
  | unfinishedFlags
  | unknownFlag
  | duplicateGroupName
  | emptyGroupName
  | invalidGroupName
  | unclosedGroupName
  | unclosedGroup
  | unopenedGroup
  | nestLimit
  | invalidRepetition
  | missingCount
  | unclosedRepetition
  | missingOperand
  | unclosedBoundary
  | unknownBoundary
  | unfinishedBoundary
  | invalidProperty
  | backreference
  | lookAround
  -- The pattern is well formed, but has no meaning.
  | notUnicode
  | invalidUtf8
  | unknownProperty
  | unknownPropertyValue
  | tooLarge
deriving DecidableEq

-- How many nodes of a pattern may stand in each other.
def nestLimit : Nat := 250

def Fault.reason : Fault → String
  | .classEscape => "invalid escape sequence found in character class"
  | .classRange => "invalid character class range, the start must be <= the end"
  | .classRangeEnd => "invalid range boundary, must be a literal"
  | .unclosedClass => "unclosed character class"
  | .invalidNumber => "decimal literal invalid"
  | .emptyHex => "hexadecimal literal empty"
  | .invalidHex => "hexadecimal literal is not a Unicode scalar value"
  | .invalidHexDigit => "invalid hexadecimal digit"
  | .unfinishedEscape => "incomplete escape sequence, reached end of pattern prematurely"
  | .unknownEscape => "unrecognized escape sequence"
  | .danglingNegation => "dangling flag negation operator"
  | .duplicateFlag => "duplicate flag"
  | .repeatedNegation => "flag negation operator repeated"
  | .unfinishedFlags => "expected flag but got end of regex"
  | .unknownFlag => "unrecognized flag"
  | .duplicateGroupName => "duplicate capture group name"
  | .emptyGroupName => "empty capture group name"
  | .invalidGroupName => "invalid capture group character"
  | .unclosedGroupName => "unclosed capture group name"
  | .unclosedGroup => "unclosed group"
  | .unopenedGroup => "unopened group"
  | .nestLimit =>
    "exceed the maximum number of nested parentheses/brackets (" ++ toString Regex.nestLimit ++ ")"
  | .invalidRepetition => "invalid repetition count range, the start must be <= the end"
  | .missingCount => "repetition quantifier expects a valid decimal"
  | .unclosedRepetition => "unclosed counted repetition"
  | .missingOperand => "repetition operator missing expression"
  | .unclosedBoundary =>
    "special word boundary assertion is either unclosed or contains an invalid character"
  | .unknownBoundary =>
    "unrecognized special word boundary assertion, valid choices are: start, end, start-half or " ++
      "end-half"
  | .unfinishedBoundary =>
    "found either the beginning of a special word boundary or a bounded repetition on a \\b with " ++
      "an opening brace, but no closing brace"
  | .invalidProperty => "invalid Unicode character class"
  | .backreference => "backreferences are not supported"
  | .lookAround => "look-around, including look-ahead and look-behind, is not supported"
  | .notUnicode => "Unicode not allowed here"
  | .invalidUtf8 => "pattern can match invalid UTF-8"
  | .unknownProperty => "Unicode property not found"
  | .unknownPropertyValue => "Unicode property value not found"
  | .tooLarge => "Compiled regex exceeds size limit of 10485760 bytes."

-- What is said of a pattern that is refused. The marks below the place of the fault are left out.
def Fault.message (fault : Fault) (pattern : String) : String :=
  if fault = .tooLarge then fault.reason
  else "regex parse error:\n    " ++ pattern ++ "\nerror: " ++ fault.reason

end TableFlow.Regex
