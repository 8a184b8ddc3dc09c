import Mathlib.Data.Option.Basic
import TableFlow.Formula.Eval
import TableFlow.Proofs.Except

namespace TableFlow.Formula

-- A relation, for cells of every kind, that is kept by what is done cell by cell.
structure Uniform (R : (α : Type) → Datum α → Datum α → Prop) : Prop where
  map : ∀ {α β : Type} (f : α → Option β) {d d' : Datum α}, R α d d' → R β (d.map f) (d'.map f)
  zipWith : ∀ {α β γ : Type} (f : α → β → Option γ) {a a' : Datum α} {b b' : Datum β},
    R α a a' → R β b b' → R γ (Datum.zipWith f a b) (Datum.zipWith f a' b')

namespace Operand

variable {R : (α : Type) → Datum α → Datum α → Prop}

-- Operands of one type with related cells.
inductive Related (R : (α : Type) → Datum α → Datum α → Prop) : Operand → Operand → Prop where
  | intro {type : DataType} {d d' : Datum type.Cell} (h : R type.Cell d d') :
      Related R ⟨type, d⟩ ⟨type, d'⟩

inductive Numbers.Related (R : (α : Type) → Datum α → Datum α → Prop) : Numbers → Numbers → Prop
    where
  | integers {d d' : Datum Int64} (h : R Int64 d d') : Related R (.integers d) (.integers d')
  | decimals {d d' : Datum Decimal} (h : R Decimal d d') : Related R (.decimals d) (.decimals d')

variable {x x' : Operand}

theorem Related.numbers? (h : x.Related R x') :
    Option.Rel (Numbers.Related R) x.numbers? x'.numbers? := by
  obtain @⟨type, d, d', h⟩ := h
  cases type with
  | int64 => exact .some (.integers h)
  | float64 => exact .some (.decimals h)
  | _ => exact .none

theorem Related.numbers (operator : String) (h : x.Related R x') :
    Agree (Numbers.Related R) (numbers operator x) (numbers operator x') := by
  obtain @⟨type, d, d', h⟩ := h
  cases type with
  | int64 => exact .ok (.integers h)
  | float64 => exact .ok (.decimals h)
  | _ => exact .error _

theorem Related.truths (operator : String) (h : x.Related R x') :
    Agree (R Bool) (truths operator x) (truths operator x') := by
  obtain @⟨type, d, d', h⟩ := h
  cases type with
  | boolean => exact .ok h
  | _ => exact .error _

theorem Related.texts (operator : String) (h : x.Related R x') :
    Agree (R String) (texts operator x) (texts operator x') := by
  obtain @⟨type, d, d', h⟩ := h
  cases type with
  | utf8 => exact .ok h
  | _ => exact .error _

theorem Related.cast (hR : Uniform R) (target : DataType) (h : x.Related R x') :
    Agree (Related R) (x.cast target) (x'.cast target) := by
  obtain @⟨type, d, d', h⟩ := h
  simp only [Operand.cast]
  cases DataType.cast? type target with
  | none => exact .error _
  | some convert => exact .ok ⟨hR.map convert h⟩

theorem Numbers.Related.toDecimals (hR : Uniform R) {m m' : Numbers} (h : m.Related R m') :
    R Decimal m.toDecimals m'.toDecimals := by
  cases h with
  | integers h => exact hR.map _ h
  | decimals h => exact h

end Operand

open Operand

variable {R : (α : Type) → Datum α → Datum α → Prop} {x x' y y' : Operand} {m m' n n' : Numbers}

theorem related_rounded (hR : Uniform R) (round : Decimal → Option Int) (h : m.Related R m') :
    (rounded round m).Related R (rounded round m') := by
  cases h with
  | integers h => exact ⟨h⟩
  | decimals h => exact ⟨hR.map _ h⟩

theorem related_negated (hR : Uniform R) (h : m.Related R m') :
    (negated m).Related R (negated m') := by
  cases h with
  | integers h => exact ⟨hR.map _ h⟩
  | decimals h => exact ⟨hR.map _ h⟩

theorem related_onDecimals (hR : Uniform R) (f : Decimal → Decimal → Decimal)
    (hm : m.Related R m') (hn : n.Related R n') :
    (onDecimals f m n).Related R (onDecimals f m' n') :=
  ⟨hR.zipWith _ (hm.toDecimals hR) (hn.toDecimals hR)⟩

theorem related_onNumbers (hR : Uniform R) (f : Int64 → Int64 → Option Int64)
    (g : Decimal → Decimal → Decimal) (hm : m.Related R m') (hn : n.Related R n') :
    (onNumbers f g m n).Related R (onNumbers f g m' n') := by
  cases hm with
  | integers ha =>
      cases hn with
      | integers hb => exact ⟨hR.zipWith f ha hb⟩
      | decimals hb => exact related_onDecimals hR g (.integers ha) (.decimals hb)
  | decimals ha => exact related_onDecimals hR g (.decimals ha) hn

theorem agree_evaluateUnary (hR : Uniform R) (op : UnaryOp) (hx : x.Related R x') :
    Agree (Related R) (evaluateUnary op x) (evaluateUnary op x') := by
  cases op with
  | not => exact (hx.truths _).bind fun _ _ h => .ok ⟨hR.map _ h⟩
  | negate => exact (hx.numbers _).bind fun _ _ h => .ok (related_negated hR h)
  | sqrt => exact (hx.numbers _).bind fun _ _ h => .ok ⟨hR.map _ (h.toDecimals hR)⟩
  | floor | ceil | round => exact (hx.numbers _).bind fun _ _ h => .ok (related_rounded hR _ h)
  | lowercase | uppercase => exact (hx.texts _).bind fun _ _ h => .ok ⟨hR.map _ h⟩

-- Whether operands have an order, and the same one, is said by their types.
theorem agree_compareAlike (hR : Uniform R) (test : Ordering → Bool) (hx : x.Related R x')
    (hy : y.Related R y') : Agree (Related R) (compareAlike test x y) (compareAlike test x' y') := by
  obtain @⟨s, a, a', ha⟩ := hx
  obtain @⟨t, b, b', hb⟩ := hy
  simp only [compareAlike]
  cases s.compareCells? with
  | none => exact .error _
  | some compare =>
      dsimp only
      by_cases htype : t = s
      · subst htype
        rw [dif_pos rfl, dif_pos rfl]
        exact .ok ⟨hR.zipWith _ ha hb⟩
      · rw [dif_neg htype, dif_neg htype]
        exact .error _

-- Whether both operands are numbers is said by their types too, so related pairs split alike.
theorem agree_compareOperands (hR : Uniform R) (test : Ordering → Bool) (hx : x.Related R x')
    (hy : y.Related R y') :
    Agree (Related R) (compareOperands test x y) (compareOperands test x' y') := by
  have hm := hx.numbers?
  have hn := hy.numbers?
  have hother := agree_compareAlike hR test hx hy
  obtain @⟨s, a, a', ha⟩ := hx
  obtain @⟨t, b, b', hb⟩ := hy
  unfold compareOperands
  revert hm hn
  generalize Operand.numbers? ⟨s, a⟩ = m
  generalize Operand.numbers? ⟨s, a'⟩ = m'
  generalize Operand.numbers? ⟨t, b⟩ = n
  generalize Operand.numbers? ⟨t, b'⟩ = n'
  intro hm hn
  cases hm with
  | none => exact hother
  | some hm =>
      cases hn with
      | none => cases hm <;> exact hother
      | some hn =>
          have hdecimals := hR.zipWith (fun d e => some (test (d.totalCompare e)))
            (hm.toDecimals hR) (hn.toDecimals hR)
          cases hm with
          | integers hm =>
              cases hn with
              | integers hn => exact .ok ⟨hR.zipWith _ hm hn⟩
              | decimals hn => exact .ok ⟨hdecimals⟩
          | decimals hm => cases hn <;> exact .ok ⟨hdecimals⟩

theorem agree_evaluateBinary (hR : Uniform R) (op : BinaryOp) (hx : x.Related R x')
    (hy : y.Related R y') :
    Agree (Related R) (evaluateBinary op x y) (evaluateBinary op x' y') := by
  -- Both operands are read first, as numbers or as truths, unless they are compared.
  have hboth {f : Numbers → Numbers → Operand}
      (hf : ∀ {m m' n n' : Numbers}, m.Related R m' → n.Related R n' →
        (f m n).Related R (f m' n')) :
      Agree (Related R) (do return f (← numbers op.symbol x) (← numbers op.symbol y))
        (do return f (← numbers op.symbol x') (← numbers op.symbol y')) :=
    (hx.numbers _).bind fun _ _ hm => (hy.numbers _).bind fun _ _ hn => .ok (hf hm hn)
  have htruths {f : Bool → Bool → Bool} :
      Agree (Related R) (do return onTruths f (← truths op.symbol x) (← truths op.symbol y))
        (do return onTruths f (← truths op.symbol x') (← truths op.symbol y')) :=
    (hx.truths _).bind fun _ _ ha => (hy.truths _).bind fun _ _ hb => .ok ⟨hR.zipWith _ ha hb⟩
  cases op with
  | add | subtract | multiply | modulo => exact hboth (related_onNumbers hR _ _)
  | divide | pow | root => exact hboth (related_onDecimals hR _)
  | equal | notEqual | less | lessEqual | greater | greaterEqual =>
      exact agree_compareOperands hR _ hx hy
  | and | or | xor => exact htruths

-- By induction on the formula: a formula keeps what its operators keep, over columns that are
-- related by name.
theorem agree_evaluate (hR : Uniform R)
    (hconstant : ∀ {α : Type} (cell : Option α), R α (.constant cell) (.constant cell))
    {column? column'? : String → Option Series}
    (hcolumns : ∀ name, Option.Rel (fun s s' => (ofSeries s).Related R (ofSeries s'))
      (column? name) (column'? name)) (formula : Formula) :
    Agree (Related R) (formula.evaluate column?) (formula.evaluate column'?) := by
  induction formula with
  | column name =>
      have hname := hcolumns name
      rw [evaluate, evaluate]
      revert hname
      generalize column? name = s, column'? name = s'
      rintro (hs | _)
      · exact .ok hs
      · exact .error _
  | literal value =>
      cases value with
      | boolean _ | integer _ | decimal _ | text _ => exact .ok ⟨hconstant _⟩
      | _ => exact .error _
  | unary op operand ih => exact ih.bind fun _ _ hx => agree_evaluateUnary hR op hx
  | binary op left right ihl ihr =>
      exact ihl.bind fun _ _ hx => ihr.bind fun _ _ hy => agree_evaluateBinary hR op hx hy
  | cast operand type ih => exact ih.bind fun _ _ hx => hx.cast hR type

end TableFlow.Formula
