namespace TableFlow.Integer

-- Powers are those of the core library, whatever else is imported.
attribute [local instance (10000)] instPowNat

-- The word that denotes `n`, if 64 signed bits hold it.
def ofInt? (n : Int) : Option Int64 :=
  if -2 ^ (63 : Nat) ≤ n ∧ n < 2 ^ (63 : Nat) then some (Int64.ofInt n) else none

theorem toInt_bounds (a : Int64) : -2 ^ (63 : Nat) ≤ a.toInt ∧ a.toInt < 2 ^ (63 : Nat) :=
  ⟨Int64.le_toInt a, Int64.toInt_lt a⟩

-- A word is returned exactly when it denotes the number asked for.
theorem ofInt?_eq_some_iff {n : Int} {a : Int64} : ofInt? n = some a ↔ a.toInt = n := by
  unfold ofInt?
  constructor
  · intro h
    split at h
    next hn =>
      obtain rfl := Option.some.inj h
      exact Int64.toInt_ofInt_of_le hn.1 hn.2
    next => exact absurd h (by simp)
  · rintro rfl
    rw [if_pos (toInt_bounds a), Int64.ofInt_toInt]

theorem ofInt?_toInt (a : Int64) : ofInt? a.toInt = some a := ofInt?_eq_some_iff.2 rfl

theorem ofInt?_eq_none_iff {n : Int} :
    ofInt? n = none ↔ n < -2 ^ (63 : Nat) ∨ 2 ^ (63 : Nat) ≤ n := by
  unfold ofInt?
  split
  next h => simp only [reduceCtorEq, false_iff]; omega
  next h => simp only [true_iff]; omega

def add? (a b : Int64) : Option Int64 := ofInt? (a.toInt + b.toInt)

def sub? (a b : Int64) : Option Int64 := ofInt? (a.toInt - b.toInt)

def mul? (a b : Int64) : Option Int64 := ofInt? (a.toInt * b.toInt)

def neg? (a : Int64) : Option Int64 := ofInt? (-a.toInt)

-- The remainder of truncated division. It has no value for a zero divisor, and none where the
-- quotient itself does not fit: the least word divided by `-1`.
def rem? (a b : Int64) : Option Int64 :=
  if b.toInt = 0 ∨ (a.toInt = -2 ^ (63 : Nat) ∧ b.toInt = -1) then none
  else ofInt? (a.toInt.tmod b.toInt)

-- The value of a string of decimal digits, most significant first.
def ofDigits (digits : List Char) : Nat :=
  digits.foldl (fun n c => 10 * n + (c.toNat - '0'.toNat)) 0

-- A sign, if the text starts with one, and the rest of the text.
def takeSign : List Char → Bool × List Char
  | '-' :: rest => (true, rest)
  | '+' :: rest => (false, rest)
  | rest => (false, rest)

-- Whether a text matches `^[+-]?[0-9]+$`.
def isText (text : List Char) : Bool :=
  let digits := (takeSign text).2
  digits ≠ [] && digits.all Char.isDigit

-- The word that an optional sign and one or more digits denote.
def parse? (text : List Char) : Option Int64 :=
  let (negative, digits) := takeSign text
  if digits ≠ [] ∧ digits.all Char.isDigit then
    let n : Int := ofDigits digits
    ofInt? (if negative then -n else n)
  else none

-- Reads a text of the form of integers. Plus signs are dropped before it is parsed.
def ofText? (text : String) : Option Int64 :=
  if isText text.toList then parse? (text.toList.dropWhile (· = '+')) else none

-- Decimal digits, with a minus sign in front of negative numbers.
def text (a : Int64) : String := toString a.toInt

end TableFlow.Integer
