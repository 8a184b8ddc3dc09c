import TableFlow.Text.CaseTable

namespace TableFlow.Text

-- Whether, after characters that do not interrupt a word, a letter with case follows.
def casedFollows (text : List Char) : Bool :=
  match text.dropWhile (fun c => CaseTable.ignorable.contains c) with
  | c :: _ => CaseTable.cased.contains c
  | [] => false

-- Lowercase of one character.
def lowerChar (c : Char) : List Char :=
  if c.toNat < 128 then [c.toLower] else CaseTable.lower.apply c

-- Lowercase of a text, given what stands before it, nearest character first. A capital sigma at
-- the end of a word becomes a final sigma.
def lowerAfter (before : List Char) : List Char → List Char
  | [] => []
  | c :: rest =>
    (if c = 'Σ' then if casedFollows before && !casedFollows rest then ['ς'] else ['σ']
      else lowerChar c) ++ lowerAfter (c :: before) rest

def toLower (text : String) : String := String.ofList (lowerAfter [] text.toList)

-- Uppercase of one character.
def upperChar (c : Char) : List Char :=
  if c.toNat < 128 then [c.toUpper] else CaseTable.upper.apply c

def toUpper (text : String) : String := String.ofList (text.toList.flatMap upperChar)

-- The white space of Unicode.
def isBlank (c : Char) : Bool :=
  let n := c.toNat
  (9 ≤ n && n ≤ 13) || n == 0x20 || n == 0x85 || n == 0xA0 || n == 0x1680 ||
    (0x2000 ≤ n && n ≤ 0x200A) || n == 0x2028 || n == 0x2029 || n == 0x202F || n == 0x205F ||
    n == 0x3000

-- Drops white space at both ends.
def trim (text : List Char) : List Char :=
  ((text.dropWhile isBlank).reverse.dropWhile isBlank).reverse

-- Replaces the first occurrence of a character.
def replaceFirst (c replacement : Char) : List Char → List Char
  | [] => []
  | d :: rest => if d = c then replacement :: rest else d :: replaceFirst c replacement rest

-- What is left of a character when case is disregarded.
def foldChar (c : Char) : Char := (CaseTable.fold.apply c).headD c

-- The characters that differ from the given one in case only, with itself among them.
def caseVariants (c : Char) : List Char :=
  let folded := foldChar c
  folded :: CaseTable.fold.preimages folded

end TableFlow.Text
