namespace TableFlow.Text

-- The code points `lo`, `lo + stride`, … up to `hi`. Sets of characters and maps between characters
-- are short lists of such spans. The tables are stored as texts: code points in hexadecimal, a span
-- as `41-5A`, every second character as `100-12E/2`, and a map as the span and what its first
-- character goes to, `41-5A>61`.
structure Span where
  lo : Nat
  hi : Nat
  stride : Nat
deriving DecidableEq

def Span.contains (s : Span) (n : Nat) : Bool :=
  decide (s.lo ≤ n) && decide (n ≤ s.hi) && (n - s.lo) % s.stride == 0

abbrev CharSet := List Span

def CharSet.contains (set : CharSet) (c : Char) : Bool := set.any (·.contains c.toNat)

-- The runs of consecutive code points of a span.
def Span.runs (s : Span) : List (Nat × Nat) :=
  if s.stride = 1 then [(s.lo, s.hi)]
  else (List.range ((s.hi - s.lo) / s.stride + 1)).map fun k =>
    (s.lo + k * s.stride, s.lo + k * s.stride)

-- The number of runs of consecutive code points, where adjacent spans are joined.
def CharSet.runCount (set : CharSet) : Nat :=
  let runs := (set.flatMap Span.runs).mergeSort fun a b => decide (a.1 ≤ b.1)
  (runs.foldl (fun (count, stop) (lo, hi) =>
    (if 0 < count ∧ lo ≤ stop then count else count + 1, max stop (hi + 1))) (0, 0)).1

-- Sends the code points of a span, in order, to equally spaced ones; or one code point to
-- several.
structure Shift where
  span : Span
  images : List Nat
deriving DecidableEq

abbrev CharMap := List Shift

-- What a code point is sent to, if it is in the span.
def Shift.image? (s : Shift) (n : Nat) : Option (List Nat) :=
  if s.span.contains n then some (s.images.map (· + (n - s.span.lo))) else none

-- The image of a character; one without an entry is its own image.
def CharMap.apply (map : CharMap) (c : Char) : List Char :=
  match map.findSome? (·.image? c.toNat) with
  | some images => images.map Char.ofNat
  | none => [c]

-- The characters sent to the single character `c`, apart from `c` itself.
def CharMap.preimages (map : CharMap) (c : Char) : List Char :=
  map.filterMap fun s =>
    match s.images with
    | [image] =>
      let n := s.span.lo + (c.toNat - image)
      if image ≤ c.toNat ∧ s.span.contains n then some (Char.ofNat n) else none
    | _ => none

-- The value of a hexadecimal digit.
def hexDigit? (c : Char) : Option Nat :=
  if c.isDigit then some (c.toNat - '0'.toNat)
  else if 'A' ≤ c ∧ c ≤ 'F' then some (c.toNat - 'A'.toNat + 10)
  else if 'a' ≤ c ∧ c ≤ 'f' then some (c.toNat - 'a'.toNat + 10)
  else none

-- The value of a string of hexadecimal digits, where other characters are passed over.
def hexValue (digits : String) : Nat :=
  digits.toList.foldl (fun n c => match hexDigit? c with | some d => 16 * n + d | none => n) 0

def Span.read (text : String) : Span :=
  let (range, stride) := match text.splitOn "/" with
    | [range, stride] => (range, hexValue stride)
    | _ => (text, 1)
  match range.splitOn "-" with
  | [lo, hi] => ⟨hexValue lo, hexValue hi, stride⟩
  | _ => ⟨hexValue range, hexValue range, stride⟩

-- The parts of a text between spaces and line ends.
def entries (text : String) : List String :=
  ((text.splitOn "\n").flatMap (·.splitOn " ")).filter (· ≠ "")

def CharSet.read (text : String) : CharSet := (entries text).map Span.read

def Shift.read (text : String) : Shift :=
  match text.splitOn ">" with
  | [span, images] => ⟨Span.read span, (images.splitOn ".").map hexValue⟩
  | _ => ⟨Span.read text, []⟩

def CharMap.read (text : String) : CharMap := (entries text).map Shift.read

end TableFlow.Text
