namespace TableFlow

structure Location where
  file : String
  line : Nat
  column : Nat
deriving DecidableEq, Inhabited

-- The location of a node that was not read from a file.
def Location.unknown : Location := ⟨"", 0, 0⟩

def Location.text (l : Location) : String :=
  l.file ++ ":" ++ toString l.line ++ ":" ++ toString l.column

end TableFlow
