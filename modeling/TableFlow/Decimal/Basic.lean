import TableFlow.Integer

namespace TableFlow

attribute [local instance (10000)] instPowNat

-- The mantissa has its full width, or the exponent is the least one.
def Decimal.Canonical (mantissa : Nat) (exponent : Int) : Prop :=
  mantissa < 2 ^ (53 : Nat) ∧ -1074 ≤ exponent ∧ exponent ≤ 971 ∧
    (2 ^ (52 : Nat) ≤ mantissa ∨ exponent = -1074)

instance (mantissa : Nat) (exponent : Int) : Decidable (Decimal.Canonical mantissa exponent) :=
  inferInstanceAs (Decidable (_ ∧ _ ∧ _ ∧ (_ ∨ _)))

-- The numbers `± m · 2 ^ e` of the 64-bit binary interchange format, the infinities and the NaNs.
-- A finite decimal is held in canonical form, so equal decimals have equal fields.
inductive Decimal where
  | nan (negative : Bool)
  | infinite (negative : Bool)
  | finite (negative : Bool) (mantissa : Nat) (exponent : Int)
      (canonical : Decimal.Canonical mantissa exponent)
deriving DecidableEq

namespace Decimal

-- The zero of the given sign.
def zero (negative : Bool) : Decimal := .finite negative 0 (-1074) (by decide)

instance : Inhabited Decimal := ⟨zero false⟩

def isFinite : Decimal → Bool
  | .finite .. => true
  | _ => false

def isNegative : Decimal → Bool
  | .nan negative => negative
  | .infinite negative => negative
  | .finite negative .. => negative

def neg : Decimal → Decimal
  | .nan negative => .nan (!negative)
  | .infinite negative => .infinite (!negative)
  | .finite negative mantissa exponent canonical => .finite (!negative) mantissa exponent canonical

-- The integer of the given sign and magnitude.
def signed (negative : Bool) (n : Nat) : Int := if negative then -n else n

-- The integer nearest to `n / d`, ties to even.
def roundRatio (n d : Nat) : Nat :=
  let q := n / d
  let r := n % d
  if 2 * r < d then q else if d < 2 * r then q + 1 else q + q % 2

-- Numerator and denominator of `n / d` divided by `2 ^ e`.
def scale (n d : Nat) (e : Int) : Nat × Nat :=
  (n * 2 ^ (-e).toNat, d * 2 ^ e.toNat)

-- A binary floating point format: the width of the mantissa and the least and the greatest
-- exponent of its last place.
structure Format where
  width : Nat
  least : Int
  greatest : Int

def double : Format := ⟨53, -1074, 971⟩

def single : Format := ⟨24, -149, 104⟩

-- The mantissa and exponent of the number of the format nearest to `n / d`. The exponent is the
-- least one for which the ratio still fits the width; a mantissa that rounds up to the next power of
-- two moves to the next exponent.
def nearest (format : Format) (n d : Nat) : Nat × Int :=
  let guess : Int := max format.least ((Nat.log2 n : Int) - Nat.log2 d - format.width)
  let (a, b) := scale n d guess
  let e := if 2 ^ format.width ≤ a / b then guess + 1 else guess
  let (a, b) := scale n d e
  let m := roundRatio a b
  if m = 2 ^ format.width then (2 ^ (format.width - 1), e + 1) else (m, e)

-- The decimal `± m · 2 ^ e`, or the infinity of that sign if the format has no such number.
def pack (negative : Bool) (m : Nat) (e : Int) : Decimal :=
  if h : Canonical m e then .finite negative m e h else .infinite negative

-- The decimal nearest to `± n / d`, ties to even; a magnitude beyond the greatest finite decimal
-- becomes infinite.
def ofRatio (negative : Bool) (n d : Nat) : Decimal :=
  if n = 0 then zero negative
  else
    let (m, e) := nearest double n d
    pack negative m e

-- The decimal nearest to `± n · 2 ^ e`.
def ofScaled (negative : Bool) (n : Nat) (e : Int) : Decimal :=
  ofRatio negative (n * 2 ^ e.toNat) (2 ^ (-e).toNat)

def ofInt (n : Int) : Decimal := ofRatio (n < 0) n.natAbs 1

-- The decimal nearest to a word.
def ofInt64 (n : Int64) : Decimal := ofInt n.toInt

-- Rounds a decimal to single precision.
def toSingle : Decimal → Decimal
  | .finite negative m e canonical =>
    if m = 0 then .finite negative m e canonical
    else
      let (m, e) := nearest single (m * 2 ^ e.toNat) (2 ^ (-e).toNat)
      if single.greatest < e then .infinite negative else ofScaled negative m e
  | d => d

-- Reads the 64 bits of the interchange format: sign, eleven bits of exponent, 52 of mantissa.
def ofBits (bits : UInt64) : Decimal :=
  let negative := bits.toNat / 2 ^ (63 : Nat) = 1
  let field : Nat := bits.toNat / 2 ^ (52 : Nat) % 2 ^ (11 : Nat)
  let low : Nat := bits.toNat % 2 ^ (52 : Nat)
  if field = 2047 then if low = 0 then .infinite negative else .nan negative
  else if field = 0 then pack negative low (-1074)
  else pack negative (2 ^ (52 : Nat) + low) ((field : Int) - 1075)

-- The bit pattern without its sign. A step of the exponent field is worth `2 ^ 52`, which is also
-- what the hidden leading bit of the mantissa is worth; a NaN has the quiet bit alone set.
def magnitude : Decimal → Nat
  | .nan _ => 2047 * 2 ^ (52 : Nat) + 2 ^ (51 : Nat)
  | .infinite _ => 2047 * 2 ^ (52 : Nat)
  | .finite _ m e _ => (e + 1074).toNat * 2 ^ (52 : Nat) + m

def toBits (d : Decimal) : UInt64 :=
  UInt64.ofNat ((if d.isNegative then 2 ^ (63 : Nat) else 0) + d.magnitude)

-- Two finite decimals as integers over the smaller of their exponents.
def align (m : Int) (e : Int) (m' : Int) (e' : Int) : Int × Int :=
  let least := min e e'
  (m * 2 ^ (e - least).toNat, m' * 2 ^ (e' - least).toNat)

-- The order of the numbers denoted: the zeros are equal, and a NaN has no place in it.
def compare? : Decimal → Decimal → Option Ordering
  | .nan _, _ => none
  | _, .nan _ => none
  | .infinite a, .infinite b => some (Ord.compare b a)
  | .infinite a, .finite .. => some (if a then .lt else .gt)
  | .finite .., .infinite b => some (if b then .gt else .lt)
  | .finite a m e _, .finite b m' e' _ =>
    let (x, y) := align (signed a m) e (signed b m') e'
    some (Ord.compare x y)

-- Equality of the numbers denoted.
def same (a b : Decimal) : Bool := a.compare? b = some .eq

-- The place of a decimal in the total order of bit patterns: negative patterns before positive
-- ones, each by magnitude.
def rank (d : Decimal) : Int :=
  if d.isNegative then -(d.magnitude : Int) - 1 else d.magnitude

-- The total order: it tells the zeros apart and gives each NaN a place at its end.
def totalCompare (a b : Decimal) : Ordering := Ord.compare a.rank b.rank

end Decimal

end TableFlow
