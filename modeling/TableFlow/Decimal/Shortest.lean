import TableFlow.Decimal.Basic

namespace TableFlow.Decimal

attribute [local instance (10000)] instPowNat

-- Which of two fractions is chosen when they are equally near.
inductive Tie where
  | greater
  -- The one whose last digit is even.
  | even
deriving DecidableEq

-- The digits `n` and the power of ten that `n` counts.
structure Digits where
  digits : Nat
  exponent : Int
deriving DecidableEq

-- The reals that round to `m · 2 ^ e`, over a common denominator: from `low / den` to
-- `high / den`, the ends included exactly when `closed` holds.
structure Neighbourhood where
  low : Nat
  value : Nat
  high : Nat
  den : Nat
  closed : Bool

-- Below the least mantissa of full width the numbers of the format lie twice as close.
def neighbourhood (format : Format) (m : Nat) (e : Int) : Neighbourhood :=
  let num := 2 ^ e.toNat
  let den := 4 * 2 ^ (-e).toNat
  let narrow := m = 2 ^ (format.width - 1) ∧ format.least < e
  { low := (4 * m - if narrow then 1 else 2) * num
    value := 4 * m * num
    high := (4 * m + 2) * num
    den
    closed := m % 2 = 0 }

def Neighbourhood.contains (i : Neighbourhood) (n : Nat) (exponent : Int) : Bool :=
  let x := n * 10 ^ exponent.toNat * i.den
  let unit := 10 ^ (-exponent).toNat
  if i.closed then decide (i.low * unit ≤ x ∧ x ≤ i.high * unit)
  else decide (i.low * unit < x ∧ x < i.high * unit)

-- The multiple of `10 ^ exponent` that lies in the neighbourhood and nearest to its value.
def Neighbourhood.nearest? (i : Neighbourhood) (tie : Tie) (exponent : Int) : Option Nat :=
  let num := i.value * 10 ^ (-exponent).toNat
  let den := i.den * 10 ^ exponent.toNat
  let below := num / den
  let above := below + 1
  let twice := 2 * (num % den)
  match i.contains below exponent, i.contains above exponent with
  | true, true =>
    some (if twice < den ∨ (twice = den ∧ tie = .even ∧ below % 2 = 0) then below else above)
  | true, false => some below
  | false, true => some above
  | false, false => none

-- The greatest power of ten tried for a value: one digit more than it can have.
def Neighbourhood.top (i : Neighbourhood) : Int :=
  ((i.value.log2 : Int) - i.den.log2) * 30103 / 100000 + 2

-- Drops zeros at the end of the digits.
def Digits.strip : Nat → Digits → Digits
  | 0, d => d
  | fuel + 1, d =>
    if d.digits ≠ 0 ∧ d.digits % 10 = 0 then strip fuel ⟨d.digits / 10, d.exponent + 1⟩ else d

-- The shortest digits of `m · 2 ^ e`, for a mantissa that is not zero. Powers of ten are tried
-- from the greatest downwards; twenty of them always suffice.
def shortest (format : Format) (tie : Tie) (m : Nat) (e : Int) : Digits :=
  let i := neighbourhood format m e
  let found := (List.range 22).findSome? fun (k : Nat) =>
    let exponent := i.top - k
    (i.nearest? tie exponent).bind fun n => if n = 0 then none else some (Digits.mk n exponent)
  (found.getD ⟨0, 0⟩).strip 20

end TableFlow.Decimal
