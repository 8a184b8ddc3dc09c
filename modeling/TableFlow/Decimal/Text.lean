import TableFlow.Decimal.Shortest
import TableFlow.Integer
import TableFlow.Text.Case
import TableFlow.Text.Property

namespace TableFlow.Decimal

attribute [local instance (10000)] instPowNat

-- Digits in positional notation: every place between the digits and the point is written.
def Digits.positional (d : Digits) : String :=
  let digits := toString d.digits
  if 0 ≤ d.exponent then digits ++ "".pushn '0' d.exponent.toNat
  else
    let places := (-d.exponent).toNat
    let padded := "".pushn '0' (places + 1 - digits.length) ++ digits
    let whole := padded.length - places
    String.ofList (padded.toList.take whole) ++ "." ++ String.ofList (padded.toList.drop whole)

-- Positional notation below `10 ^ 16` and down to `10 ^ -5`, with at least one place after the
-- point; beyond, one digit in front of the point and the power of ten after an `e`.
def Digits.scientific (d : Digits) : String :=
  let digits := toString d.digits
  let point : Int := digits.length + d.exponent
  if 0 ≤ d.exponent ∧ point ≤ 16 then d.positional ++ ".0"
  else if -5 < point ∧ point ≤ 16 then d.positional
  else
    let tail := String.ofList (digits.toList.drop 1)
    String.ofList (digits.toList.take 1) ++ (if tail = "" then "" else "." ++ tail) ++ "e" ++
      toString (point - 1)

-- How numbers are written.
structure Style where
  digits : Digits → String
  zero : String
  tie : Tie

-- No power of ten is ever written, and no point behind a whole number.
def Style.plain : Style := ⟨Digits.positional, "0", .greater⟩

-- A point or a power of ten is always written, as in columns of text.
def Style.column : Style := ⟨Digits.scientific, "0.0", .even⟩

-- Writes a decimal that is a number of the format.
def render (format : Format) (style : Style) : Decimal → String
  | .nan _ => "NaN"
  | .infinite negative => (if negative then "-" else "") ++ "inf"
  | .finite negative m e _ =>
    (if negative then "-" else "") ++
      if m = 0 then style.zero else style.digits (shortest format style.tie m e)

-- The text of a decimal: the shortest digits that read back, in positional notation.
def text (d : Decimal) : String := d.render double .plain

-- The decimal nearest to `± n · 10 ^ e`, where `n` was written with `width` digits. Powers far
-- outside the range of decimals are not computed.
def ofDigits (negative : Bool) (n width : Nat) (e : Int) : Decimal :=
  if n = 0 ∨ e < -400 - width then zero negative
  else if 400 < e then .infinite negative
  else ofRatio negative (n * 10 ^ e.toNat) (10 ^ (-e).toNat)

-- The digits of a number as they are written: those in front of the separator, those behind it,
-- and the power of ten.
structure Numeral where
  whole : List Char
  fraction : List Char
  exponent : Int

def Numeral.toDecimal (n : Numeral) (negative : Bool) : Decimal :=
  let digits := n.whole ++ n.fraction
  ofDigits negative (Integer.ofDigits digits) digits.length (n.exponent - n.fraction.length)

-- Reads `e` or `E`, an optional sign and one or more digits, or nothing at all.
def readExponent? : List Char → Option Int
  | [] => some 0
  | c :: rest =>
    let (negative, digits) := Integer.takeSign rest
    if (c = 'e' ∨ c = 'E') ∧ digits ≠ [] ∧ digits.all Char.isDigit then
      some (signed negative (Integer.ofDigits digits))
    else none

-- The digits behind a point, and the rest of a text.
def takeFraction : List Char → List Char × List Char
  | '.' :: rest => (rest.takeWhile Char.isDigit, rest.dropWhile Char.isDigit)
  | rest => ([], rest)

-- Reads digits with a point in any place or none, and an exponent.
def readPointed? (text : List Char) : Option Numeral :=
  let whole := text.takeWhile Char.isDigit
  let (fraction, rest) := takeFraction (text.dropWhile Char.isDigit)
  if whole = [] ∧ fraction = [] then none else (readExponent? rest).map (⟨whole, fraction, ·⟩)

-- The decimal nearest to what a number denotes, or what the words for infinity and NaN denote,
-- without regard to case. All take an optional sign.
def parse? (text : List Char) : Option Decimal :=
  let (negative, rest) := Integer.takeSign text
  let word := rest.map Char.toLower
  if word = "nan".toList then some (.nan negative)
  else if word = "inf".toList ∨ word = "infinity".toList then some (.infinite negative)
  else (readPointed? rest).map (·.toDecimal negative)

-- Whether a text matches `^([eE][+-]?\d+)?$`, with the digits of all scripts.
def isExponent : List Char → Bool
  | [] => true
  | c :: rest =>
    let digits := (Integer.takeSign rest).2
    (c = 'e' || c = 'E') && digits ≠ [] && digits.all Text.Property.isDigit

-- Whether a text matches `^([0-9]*[,.])?[0-9]+([eE][+-]?\d+)?$`.
def isUnsignedText (text : List Char) : Bool :=
  let whole := text.takeWhile Char.isDigit
  match text.dropWhile Char.isDigit with
  | c :: rest =>
    if c = ',' || c = '.' then
      rest.takeWhile Char.isDigit ≠ [] && isExponent (rest.dropWhile Char.isDigit)
    else whole ≠ [] && isExponent (c :: rest)
  | [] => whole ≠ []

-- Whether a text matches `^[+-]?([0-9]*[,.])?[0-9]+([eE][+-]?\d+)?$`.
def isText (text : List Char) : Bool := isUnsignedText (Integer.takeSign text).2

-- Reads a text of the form of decimals, with a comma as with a point. A text that is parsed as an
-- infinity is refused.
def ofText? (text : String) : Option Decimal :=
  if isText text.toList then
    (parse? (Text.replaceFirst ',' '.' text.toList)).filter (·.isFinite)
  else none

end TableFlow.Decimal
