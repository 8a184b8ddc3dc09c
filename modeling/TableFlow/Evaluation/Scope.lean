import TableFlow.Formula.Basic

namespace TableFlow

-- A value, or a column that is known only as a formula.
inductive Symbolic where
  | scalar (value : Value)
  | column (formula : Formula)

-- Values are used as literals.
def Symbolic.formula : Symbolic → Formula
  | .scalar value => .literal value
  | .column formula => formula

structure Scope where
  bindings : List (String × Symbolic)

namespace Scope

def empty : Scope := ⟨[]⟩

def lookup? (s : Scope) (name : String) : Option Symbolic :=
  (s.bindings.find? (·.1 == name)).map (·.2)

def contains (s : Scope) (name : String) : Bool := (s.lookup? name).isSome

def isEmpty (s : Scope) : Bool := s.bindings.isEmpty

def erase (s : Scope) (name : String) : Scope := ⟨s.bindings.filter (·.1 != name)⟩

-- Binds a name, in place of what it stood for before.
def insert (s : Scope) (name : String) (meaning : Symbolic) : Scope :=
  ⟨(name, meaning) :: (s.erase name).bindings⟩

-- Binds names in order, so that the last binding of a name counts.
def insertAll (s : Scope) (bindings : List (String × Symbolic)) : Scope :=
  bindings.foldl (fun s b => s.insert b.1 b.2) s

-- Leaves the names unbound, also those that were bound before the bindings were made.
def eraseAll (s : Scope) (bindings : List (String × Symbolic)) : Scope :=
  bindings.foldl (fun s b => s.erase b.1) s

theorem lookup?_erase_of_ne (s : Scope) {name other : String} (h : name ≠ other) :
    (s.erase other).lookup? name = s.lookup? name := by
  obtain ⟨bindings⟩ := s
  simp only [lookup?, erase]
  congr 1
  induction bindings with
  | nil => rfl
  | cons b bs ih =>
    by_cases hb : b.1 = other
    · have : b.1 ≠ name := fun e => h (e.symm.trans hb)
      simp [hb, ih, Ne.symm h]
    · by_cases hn : b.1 = name <;> simp_all

theorem lookup?_insert_self (s : Scope) (name : String) (meaning : Symbolic) :
    (s.insert name meaning).lookup? name = some meaning := by
  simp [lookup?, insert]

theorem lookup?_insert_of_ne (s : Scope) {name other : String} (meaning : Symbolic)
    (h : name ≠ other) : (s.insert other meaning).lookup? name = s.lookup? name := by
  rw [← lookup?_erase_of_ne s h]
  simp [lookup?, insert, Ne.symm h]

end Scope

-- The texts of the runtime parameters.
structure Parameters where
  entries : List (String × String)

namespace Parameters

def empty : Parameters := ⟨[]⟩

def text? (p : Parameters) (name : String) : Option String :=
  (p.entries.find? (·.1 == name)).map (·.2)

def contains (p : Parameters) (name : String) : Bool := (p.text? name).isSome

-- The parameter read as a value of the type.
def value? (p : Parameters) (name : String) (type : ValueType) :
    Except Violation (Option Value) :=
  match p.text? name with
  | some text => type.ofText? text
  | none => .ok none

end Parameters

end TableFlow
