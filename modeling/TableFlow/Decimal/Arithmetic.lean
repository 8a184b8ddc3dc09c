import TableFlow.Decimal.Basic

namespace TableFlow.Decimal

attribute [local instance (10000)] instPowNat

-- What an operation without a value gives.
def invalid : Decimal := .nan true

def add : Decimal → Decimal → Decimal
  | .nan a, _ => .nan a
  | _, .nan b => .nan b
  | .infinite a, .infinite b => if a = b then .infinite a else invalid
  | .infinite a, .finite .. => .infinite a
  | .finite .., .infinite b => .infinite b
  | .finite a m e _, .finite b m' e' _ =>
    let (x, y) := align (signed a m) e (signed b m') e'
    if x + y = 0 then zero (a && b) else ofScaled (x + y < 0) (x + y).natAbs (min e e')

-- Subtraction adds the negated operand, except that a NaN on the right keeps its sign.
def sub (x y : Decimal) : Decimal :=
  match y with
  | .nan b => add x (.nan b)
  | y => add x y.neg

def mul : Decimal → Decimal → Decimal
  | .nan a, _ => .nan a
  | _, .nan b => .nan b
  | .infinite a, .infinite b => .infinite (a != b)
  | .infinite a, .finite b m _ _ => if m = 0 then invalid else .infinite (a != b)
  | .finite a m _ _, .infinite b => if m = 0 then invalid else .infinite (a != b)
  | .finite a m e _, .finite b m' e' _ => ofScaled (a != b) (m * m') (e + e')

def div : Decimal → Decimal → Decimal
  | .nan a, _ => .nan a
  | _, .nan b => .nan b
  | .infinite _, .infinite _ => invalid
  | .infinite a, .finite b .. => .infinite (a != b)
  | .finite a .., .infinite b => zero (a != b)
  | .finite a m e _, .finite b m' e' _ =>
    if m' = 0 then if m = 0 then invalid else .infinite (a != b)
    else ofRatio (a != b) (m * 2 ^ (e - e').toNat) (m' * 2 ^ (e' - e).toNat)

-- The remainder of truncated division. It is exact and has the sign of the dividend.
def rem : Decimal → Decimal → Decimal
  | .nan a, _ => .nan a
  | _, .nan b => .nan b
  | .infinite _, _ => invalid
  | .finite a m e canonical, .infinite _ => .finite a m e canonical
  | .finite a m e _, .finite _ m' e' _ =>
    if m' = 0 then invalid
    else
      let (x, y) := align m e m' e'
      ofScaled a (x.natAbs % y.natAbs) (min e e')

-- The integer part of the square root.
def sqrtNat (n : Nat) : Nat := go (n.log2 / 2 + 1) n
where
  -- One binary digit of the root for two of `n`; the first argument bounds their number.
  go : Nat → Nat → Nat
    | 0, _ => 0
    | fuel + 1, n =>
      let r := 2 * go fuel (n / 4)
      if (r + 1) * (r + 1) ≤ n then r + 1 else r

-- The square root. The mantissa is widened until its integer root has two digits more than a
-- decimal keeps, and one more digit records whether the root was exact.
def sqrt : Decimal → Decimal
  | .nan a => .nan a
  | .infinite a => if a then invalid else .infinite false
  | .finite a m e canonical =>
    if m = 0 then .finite a m e canonical
    else if a then invalid
    else
      let shift : Nat := 112 + (e % 2).toNat
      let wide := m * 2 ^ shift
      let root := sqrtNat wide
      let sticky := if root * root = wide then 0 else 1
      ofScaled false (2 * root + sticky) ((e - shift) / 2 - 1)

-- The greatest integer not above a finite decimal.
def floor? : Decimal → Option Int
  | .finite a m e _ => some (signed a (m * 2 ^ e.toNat) / 2 ^ (-e).toNat)
  | _ => none

-- The least integer not below a finite decimal.
def ceil? (d : Decimal) : Option Int := d.neg.floor?.map (- ·)

def half : Decimal := .ofRatio false 1 2

-- The greatest integer not above the decimal sum of the operand and one half.
def round? (d : Decimal) : Option Int := (d.add half).floor?

-- A finite decimal with its fraction cut off.
def truncate? (d : Decimal) : Option Int := if d.isNegative then d.ceil? else d.floor?

-- A finite decimal that is an integer, as that integer.
def toInt? (d : Decimal) : Option Int :=
  match d.floor?, d.ceil? with
  | some a, some b => if a = b then some a else none
  | _, _ => none

def isZero (d : Decimal) : Bool := d.same (zero false)

-- The reciprocal.
def inv (d : Decimal) : Decimal := div (ofInt 1) d

-- The power function of the mathematical library of the machine.
def pow (x y : Decimal) : Decimal :=
  match ofBits (Float.pow (Float.ofBits x.toBits) (Float.ofBits y.toBits)).toBits, x, y with
  | .nan _, .nan a, _ => .nan a
  | .nan _, _, .nan b => .nan b
  | .nan _, _, _ => invalid
  | d, _, _ => d

-- The `n`-th root, as the power with exponent `1 / n`.
def root (x n : Decimal) : Decimal := pow x n.inv

end TableFlow.Decimal
