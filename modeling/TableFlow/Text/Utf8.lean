namespace TableFlow.Text.Utf8

-- The range of the bytes that continue a character.
def continuation : Nat × Nat := (0x80, 0xBF)

-- What the first byte of a character tells: the bits of the code point that it holds, and the ranges
-- in which the bytes behind it have to lie. The narrower ranges keep out code points that have a
-- shorter form, those of surrogates and those beyond the last one.
def lead? (b : Nat) : Option (Nat × List (Nat × Nat)) :=
  if b < 0x80 then some (b, [])
  else if 0xC2 ≤ b ∧ b ≤ 0xDF then some (b % 32, [continuation])
  else if b = 0xE0 then some (0, [(0xA0, 0xBF), continuation])
  else if b = 0xED then some (13, [(0x80, 0x9F), continuation])
  else if 0xE1 ≤ b ∧ b ≤ 0xEF then some (b % 16, [continuation, continuation])
  else if b = 0xF0 then some (0, [(0x90, 0xBF), continuation, continuation])
  else if 0xF1 ≤ b ∧ b ≤ 0xF3 then some (b % 8, [continuation, continuation, continuation])
  else if b = 0xF4 then some (4, [(0x80, 0x8F), continuation, continuation])
  else none

-- Adds six bits of each byte that lies in its range. The code point is missing if one does not;
-- this byte and those behind it are left.
def follow : Nat → List (Nat × Nat) → List UInt8 → Option Nat × List UInt8
  | n, [], bytes => (some n, bytes)
  | _, _ :: _, [] => (none, [])
  | n, (low, high) :: ranges, b :: bytes =>
    if low ≤ b.toNat ∧ b.toNat ≤ high then follow (n * 64 + b.toNat % 64) ranges bytes
    else (none, b :: bytes)

theorem length_follow_le (n : Nat) (ranges : List (Nat × Nat)) (bytes : List UInt8) :
    (follow n ranges bytes).2.length ≤ bytes.length := by
  fun_induction follow n ranges bytes with
  | case1 => exact Nat.le_refl _
  | case2 => exact Nat.le_refl _
  | case3 n low high ranges b bytes h ih => exact Nat.le_succ_of_le ih
  | case4 => exact Nat.le_refl _

def replacement : Char := '\ufffd'

def decode : List UInt8 → List Char
  | [] => []
  | b :: bytes =>
    match lead? b.toNat with
    | none => replacement :: decode bytes
    | some (n, ranges) =>
      let codePoint? := (follow n ranges bytes).1
      (codePoint?.map Char.ofNat).getD replacement :: decode (follow n ranges bytes).2
termination_by bytes => bytes.length
decreasing_by
  · exact Nat.lt_succ_self _
  · exact Nat.lt_succ_of_le (length_follow_le n ranges bytes)

end TableFlow.Text.Utf8
