import TableFlow.Proofs.Decimal.Order
import TableFlow.Proofs.Expression.Lazy
import TableFlow.Proofs.Expression.Symbolic

namespace TableFlow

namespace Integer

-- The integers that words denote.
def IsWord (n : Int) : Prop := -2 ^ 63 ≤ n ∧ n < 2 ^ 63

instance (n : Int) : Decidable (IsWord n) := inferInstanceAs (Decidable (_ ∧ _))

theorem isWord_toInt (a : Int64) : IsWord a.toInt := toInt_bounds a

theorem ofInt?_eq_none {n : Int} : ofInt? n = none ↔ ¬ IsWord n := by
  rw [ofInt?_eq_none_iff, IsWord]
  omega

end Integer

open Integer

-- What an operator that takes integers to integers makes of a mathematical integer.
def UnaryOp.onInteger? : UnaryOp → Option (Int → Int)
  | .plus | .floor | .ceil | .round => some id
  | .minus => some Neg.neg
  | _ => none

namespace BinaryOp

-- The remainder is that of truncated division.
def onIntegers? : BinaryOp → Option (Int → Int → Int)
  | .add => some (· + ·)
  | .subtract => some (· - ·)
  | .multiply => some (· * ·)
  | .modulo => some Int.tmod
  | _ => none

-- Remainders that are not taken: those by zero, and that of the least word by `-1`.
def refuses (op : BinaryOp) (m n : Int) : Bool :=
  decide (op = .modulo ∧ (n = 0 ∨ (m = -2 ^ 63 ∧ n = -1)))

-- The result on words, where it is a word.
def onWords (op : BinaryOp) (f : Int → Int → Int) (m n : Int64) : Option Int64 :=
  if op.refuses m.toInt n.toInt then none else ofInt? (f m.toInt n.toInt)

end BinaryOp

namespace UnaryOp

variable {op : UnaryOp} {f : Int → Int}

theorem type?_integer (hop : op.onInteger? = some f) : op.type? .integer = some .integer := by
  cases op <;> cases hop <;> rfl

-- On a value and on a cell an operator gives the word of the exact result.
theorem apply_integer (hop : op.onInteger? = some f) (n : Int64) :
    (op.apply (.integer n)).toOption = (ofInt? (f n.toInt)).map .integer := by
  have hword (k : Option Int64) : (Operator.integerResult k).toOption = k.map .integer := by
    cases k <;> rfl
  cases op <;> cases hop
  case minus => exact hword _
  all_goals rw [id_eq, ofInt?_toInt]; rfl

theorem onCell_integer (hop : op.onInteger? = some f) (n : Int64) :
    op.onCell (.integer n) = (ofInt? (f n.toInt)).map .integer := by
  cases op <;> cases hop
  case minus => rfl
  all_goals rw [id_eq, ofInt?_toInt]; rfl

theorem content_carry_none {κ : Carried} (hκ : κ.content = none) : (op.carry κ).content = none := by
  cases κ with
  | failed => rfl
  | constant v => cases hκ
  | cell c =>
      obtain rfl : c = none := hκ
      rfl

theorem content_carry_integer (hop : op.onInteger? = some f) {κ : Carried} {n : Int64}
    (hκ : κ.content = some (.integer n)) :
    (op.carry κ).content = (ofInt? (f n.toInt)).map .integer := by
  cases κ with
  | failed => cases hκ
  | constant v =>
      cases hκ
      rw [← apply_integer hop, carry]
      cases op.apply (.integer n) <;> rfl
  | cell c =>
      obtain rfl : c = some (.integer n) := hκ
      exact onCell_integer hop n

end UnaryOp

namespace BinaryOp

variable {op : BinaryOp} {f : Int → Int → Int}

theorem shortCircuit?_integer (op : BinaryOp) (n : Int64) :
    op.shortCircuit? (.integer n) = none := by
  cases op <;> rfl

theorem rem?_eq (m n : Int64) : rem? m n = onWords .modulo Int.tmod m n := by
  simp [rem?, onWords, refuses]

-- Whether a divisor is zero is found out from the decimal nearest to it.
theorem apply_integers (hop : op.onIntegers? = some f) (m n : Int64) :
    (op.apply (.integer m) (.integer n)).toOption = (op.onWords f m n).map .integer := by
  have hword (k : Option Int64) : (Operator.integerResult k).toOption = k.map .integer := by
    cases k <;> rfl
  cases op <;> cases hop
  case modulo =>
    show (if (Decimal.ofInt64 n).isZero = true then Operator.fail .moduloByZero
      else Operator.integerResult (rem? m n)).toOption = _
    by_cases hn : n.toInt = 0
    · rw [if_pos ((Decimal.isZero_ofInt64 n).mpr hn)]
      simp [onWords, refuses, hn]
      rfl
    · rw [if_neg fun h => hn ((Decimal.isZero_ofInt64 n).mp h), hword, rem?_eq]
  all_goals exact hword _

theorem onCells_integers (hop : op.onIntegers? = some f) (m n : Int64) :
    op.onCells (.integer m) (.integer n) = (op.onWords f m n).map .integer := by
  cases op <;> cases hop
  case modulo => rw [← rem?_eq]; rfl
  all_goals rfl

theorem type?_integers (hop : op.onIntegers? = some f) :
    op.type? .integer .integer = some .integer := by
  cases op <;> cases hop <;> rfl

theorem takesExponent_of_onIntegers? (hop : op.onIntegers? = some f) :
    op.takesExponent = false := by
  cases op <;> cases hop <;> rfl

theorem ne_root_of_onIntegers? (hop : op.onIntegers? = some f) : op ≠ .root := by
  rintro rfl
  cases hop

theorem content_carry_none_left (hop : op.onIntegers? = some f) {κ μ : Carried}
    (hκ : κ.content = none) : (op.carry κ μ).content = none := by
  cases κ with
  | failed => rfl
  | constant v => cases hκ
  | cell c =>
      obtain rfl : c = none := hκ
      by_cases hμ : μ = .failed
      · rw [hμ]
        rfl
      · rw [carry_of_ne_root (ne_root_of_onIntegers? hop) (by simp) hμ (by simp)]
        rfl

theorem content_carry_none_right (hop : op.onIntegers? = some f) {κ μ : Carried}
    (hμ : μ.content = none) : (op.carry κ μ).content = none := by
  cases μ with
  | failed => rw [carry_failed]; rfl
  | constant v => cases hμ
  | cell c =>
      obtain rfl : c = none := hμ
      by_cases hκ : κ = .failed
      · rw [hκ]
        rfl
      · rw [carry_of_ne_root (ne_root_of_onIntegers? hop) hκ (by simp) (by simp)]
        exact Formula.Datum.lift_none_right _ _

theorem content_carry_integers (hop : op.onIntegers? = some f) {κ μ : Carried} {m n : Int64}
    (hκ : κ.content = some (.integer m)) (hμ : μ.content = some (.integer n)) :
    (op.carry κ μ).content = (op.onWords f m n).map .integer := by
  by_cases hconstant : ∃ v w, κ = .constant v ∧ μ = .constant w
  · obtain ⟨v, w, rfl, rfl⟩ := hconstant
    cases hκ
    cases hμ
    rw [← apply_integers hop, carry]
    cases op.apply (.integer m) (.integer n) <;> rfl
  · have hκ' : κ ≠ .failed := fun h => by rw [h] at hκ; cases hκ
    have hμ' : μ ≠ .failed := fun h => by rw [h] at hμ; cases hμ
    rw [carry_of_ne_root (ne_root_of_onIntegers? hop) hκ' hμ' hconstant, hκ, hμ,
      ← onCells_integers hop]
    rfl

end BinaryOp

namespace Expr

-- The value of an expression over the mathematical integers.
def integer (x : String → Int) : Expr → Int
  | .literal (.integer n) _ => n.toInt
  | .var name _ => x name
  | .unary op operand _ => (op.onInteger?.getD id) (operand.integer x)
  | .binary op left right _ =>
    (op.onIntegers?.getD fun m _ => m) (left.integer x) (right.integer x)
  | _ => 0

-- Expressions that take integers to integers, over variables of a kind.
inductive Integral (port : String → Prop) : Expr → Prop where
  | literal {n location} : Integral port (.literal (.integer n) location)
  | var {name location} (h : port name) : Integral port (.var name location)
  | unary {op operand location f} (hop : op.onInteger? = some f) (h : Integral port operand) :
    Integral port (.unary op operand location)
  | binary {op left right location f} (hop : op.onIntegers? = some f) (h : Integral port left)
      (h' : Integral port right) : Integral port (.binary op left right location)

-- Words cannot follow the exact value: it is not one of them, or it is a remainder that is not
-- taken.
def Overruns (x : String → Int) (e : Expr) : Prop :=
  ¬ IsWord (e.integer x) ∨ match e with
    | .binary op left right _ => op.refuses (left.integer x) (right.integer x) = true
    | _ => False

section HasPart

variable {P : Expr → Prop} {op : UnaryOp} {op' : BinaryOp} {operand left right : Expr}
  {location : Location}

theorem hasPart_var {name : String} : HasPart P (.var name location) ↔ P (.var name location) :=
  ⟨fun h => by cases h; assumption, .here⟩

theorem hasPart_literal {l : Literal} : HasPart P (.literal l location) ↔ P (.literal l location) :=
  ⟨fun h => by cases h; assumption, .here⟩

theorem hasPart_unary :
    HasPart P (.unary op operand location) ↔
      HasPart P operand ∨ P (.unary op operand location) := by
  constructor
  · intro h
    cases h with
    | here h => exact .inr h
    | operand h => exact .inl h
  · rintro (h | h)
    · exact .operand h
    · exact .here h

theorem hasPart_binary :
    HasPart P (.binary op' left right location) ↔
      HasPart P left ∨ HasPart P right ∨ P (.binary op' left right location) := by
  constructor
  · intro h
    cases h with
    | here h => exact .inr (.inr h)
    | left h => exact .inl h
    | right h => exact .inr (.inl h)
  · rintro (h | h | h)
    · exact .left h
    · exact .right h
    · exact .here h

end HasPart

-- Whether something is the value of an expression as words can follow it: nothing if some part of
-- it overruns, and the word of the exact value otherwise.
structure IsExact (x : String → Int) (e : Expr) (value : Option Value) : Prop where
  lost : e.HasPart (Overruns x) → value = none
  kept : ¬ e.HasPart (Overruns x) → ∃ n : Int64, n.toInt = e.integer x ∧ value = some (.integer n)

namespace IsExact

variable {x : String → Int} {operand left right : Expr} {location : Location}
  {value value' result : Option Value}

-- Where no operand overruns, the expression itself decides.
theorem of_parts {e : Expr} {operands : Prop}
    (hparts : e.HasPart (Overruns x) ↔ operands ∨ e.Overruns x)
    (hlost : operands → result = none)
    (hoverruns : ¬ operands → e.Overruns x → result = none)
    (hword : ¬ operands → ¬ e.Overruns x → result = (ofInt? (e.integer x)).map .integer) :
    e.IsExact x result := by
  constructor
  · intro hpart
    by_cases hoperands : operands
    · exact hlost hoperands
    · exact hoverruns hoperands ((hparts.mp hpart).resolve_left hoperands)
  · intro hnot
    obtain ⟨hoperands, hself⟩ := not_or.mp fun h => hnot (hparts.mpr h)
    have hresult := hword hoperands hself
    cases hk : ofInt? (e.integer x) with
    | none => exact absurd (.inl (ofInt?_eq_none.mp hk)) hself
    | some k =>
        rw [hk] at hresult
        exact ⟨k, ofInt?_eq_some_iff.mp hk, hresult⟩

-- A result of words, where the operands have exact values.
theorem unary {op : UnaryOp} {f : Int → Int} (hop : op.onInteger? = some f)
    (h : operand.IsExact x value) (hnone : value = none → result = none)
    (hword : ∀ n, value = some (.integer n) → result = (ofInt? (f n.toInt)).map .integer) :
    (Expr.unary op operand location).IsExact x result := by
  have hresult (hoperand : ¬ operand.HasPart (Overruns x)) :
      result = (ofInt? ((Expr.unary op operand location).integer x)).map .integer := by
    obtain ⟨n, hn, hvalue⟩ := h.kept hoperand
    rw [hword n hvalue, hn, Expr.integer, hop, Option.getD_some]
  refine .of_parts hasPart_unary (fun hpart => hnone (h.lost hpart)) (fun hoperand hself => ?_)
    fun hoperand _ => hresult hoperand
  rcases hself with hself | hself
  · rw [hresult hoperand, ofInt?_eq_none.mpr hself]
    rfl
  · exact hself.elim

theorem binary {op : BinaryOp} {f : Int → Int → Int} (hop : op.onIntegers? = some f)
    (h : left.IsExact x value) (h' : right.IsExact x value')
    (hnone : value = none ∨ value' = none → result = none)
    (hwords : ∀ m n, value = some (.integer m) → value' = some (.integer n) →
      result = (op.onWords f m n).map .integer) :
    (Expr.binary op left right location).IsExact x result := by
  have hresult (hoperands : ¬ (left.HasPart (Overruns x) ∨ right.HasPart (Overruns x))) :
      result = (if op.refuses (left.integer x) (right.integer x) then none
        else ofInt? ((Expr.binary op left right location).integer x)).map .integer := by
    obtain ⟨hleft, hright⟩ := not_or.mp hoperands
    obtain ⟨m, hm, hvalue⟩ := h.kept hleft
    obtain ⟨n, hn, hvalue'⟩ := h'.kept hright
    rw [hwords m n hvalue hvalue', BinaryOp.onWords, hm, hn, Expr.integer, hop, Option.getD_some]
  refine .of_parts (hasPart_binary.trans or_assoc.symm)
    (fun hpart => hnone (hpart.imp h.lost h'.lost)) (fun hoperands hself => ?_)
    fun hoperands hself => ?_
  · rw [hresult hoperands]
    rcases hself with hself | hself
    · rw [ofInt?_eq_none.mpr hself, ite_self]
      rfl
    · rw [if_pos hself]
      rfl
  · rw [hresult hoperands, if_neg fun h => hself (.inr h)]

theorem literal {n : Int64} :
    (Expr.literal (.integer n) location).IsExact x (some (.integer n)) := by
  have hnot : ¬ (Expr.literal (.integer n) location).HasPart (Overruns x) := by
    rw [hasPart_literal]
    rintro (h | h)
    · exact h (isWord_toInt n)
    · exact h
  exact ⟨fun h => absurd h hnot, fun _ => ⟨n, rfl, rfl⟩⟩

theorem var {name : String} {n : Int64} (hn : n.toInt = x name) :
    (Expr.var name location).IsExact x (some (.integer n)) := by
  have hnot : ¬ (Expr.var name location).HasPart (Overruns x) := by
    rw [hasPart_var]
    rintro (h | h)
    · rw [integer, ← hn] at h
      exact h (isWord_toInt n)
    · exact h
  exact ⟨fun h => absurd h hnot, fun _ => ⟨n, hn, rfl⟩⟩

theorem exists_integer {e : Expr} {v : Value} (h : e.IsExact x (some v)) :
    ∃ n, v = .integer n := by
  by_cases hpart : e.HasPart (Overruns x)
  · cases h.lost hpart
  · obtain ⟨n, -, hn⟩ := h.kept hpart
    exact ⟨n, Option.some.inj hn⟩

end IsExact

namespace Integral

variable {port : String → Prop} {e : Expr} {word : String → Int64}

theorem typed {Γ : String → Option ScalarType} (h : e.Integral port)
    (hports : ∀ name, port name → Γ name = some .integer) : e.Typed Γ .integer := by
  induction h with
  | literal => exact .literal rfl rfl rfl
  | var h => exact .var (hports _ h)
  | unary hop _ ih => exact .unary ih (UnaryOp.type?_integer hop)
  | binary hop _ _ ih ih' =>
      exact .binary ih ih' (BinaryOp.takesExponent_of_onIntegers? hop)
        (BinaryOp.type?_integers hop)

-- By induction on the expression: row by row its value is the exact one.
theorem evaluate_isExact {scope : Scope} (h : e.Integral port)
    (hscope : ∀ name, port name → scope.value name = .ok (.integer (word name))) :
    e.IsExact (fun name => (word name).toInt) (e.evaluate .lazy scope).value := by
  induction h with
  | literal =>
      rw [evaluate, Literal.evaluate]
      exact .literal
  | var h =>
      rw [evaluate, hscope _ h]
      exact .var rfl
  | unary hop _ ih =>
      rw [value_unary]
      refine .unary hop ih (fun hnone => ?_) fun n hn => ?_
      · rw [hnone, Option.bind_none]
      · rw [hn, Option.bind_some, UnaryOp.apply_integer hop]
  | @binary op left right location f hop _ _ ih ih' =>
      rw [value_binary]
      -- An integer decides nothing, so the right operand is looked at.
      have hleft (a : Value) (ha : (left.evaluate .lazy scope).value = some a) :
          op.shortCircuit? a = none := by
        rw [ha] at ih
        obtain ⟨n, rfl⟩ := ih.exists_integer
        exact op.shortCircuit?_integer n
      refine .binary hop ih ih' (fun hnone => ?_) fun m n hm hn => ?_
      · cases ha : (left.evaluate .lazy scope).value with
        | none => rfl
        | some a =>
            rw [Option.bind_some, hleft a ha, hnone.resolve_left (by rw [ha]; simp)]
            rfl
      · rw [hm, Option.bind_some, op.shortCircuit?_integer, hn]
        exact BinaryOp.apply_integers hop m n

-- By induction on the expression: what is carried for a row is the exact value.
theorem carried_isExact {cells : String → Option Value} (h : e.Integral port)
    (hcells : ∀ name, port name → cells name = some (.integer (word name))) :
    e.IsExact (fun name => (word name).toInt) (e.carried cells).content := by
  induction h with
  | literal => exact .literal
  | @var name location h =>
      have hcontent : ((Expr.var name location).carried cells).content = cells name := rfl
      rw [hcontent, hcells _ h]
      exact .var rfl
  | unary hop _ ih =>
      rw [carried]
      exact .unary hop ih UnaryOp.content_carry_none fun n => UnaryOp.content_carry_integer hop
  | @binary op left right location f hop _ _ ih ih' =>
      have hleft (a : Value) (ha : left.carried cells = .constant a) :
          op.shortCircuit? a = none := by
        rw [ha] at ih
        obtain ⟨n, rfl⟩ := ih.exists_integer
        exact op.shortCircuit?_integer n
      rw [carried_binary hleft]
      refine .binary hop ih ih' (fun hnone => ?_) fun m n hm hn => ?_
      · rcases hnone with hnone | hnone
        · exact BinaryOp.content_carry_none_left hop hnone
        · exact BinaryOp.content_carry_none_right hop hnone
      · exact BinaryOp.content_carry_integers hop hm hn

end Integral

end Expr

end TableFlow
