import TableFlow.Proofs.Expression.Lazy
import TableFlow.Proofs.Expression.Symbolic
import TableFlow.Execution.Transform
import TableFlow.Proofs.Table.Simulation

namespace TableFlow

theorem Scope.lookup?_insertAll (s : Scope) (bindings : List (String × Symbolic)) (name : String) :
    (s.insertAll bindings).lookup? name =
      ((bindings.reverse.find? (·.1 == name)).map (·.2)).or (s.lookup? name) := by
  induction bindings generalizing s with
  | nil => rfl
  | cons b bs ih =>
      refine (ih (s.insert b.1 b.2)).trans ?_
      rw [List.reverse_cons, List.find?_append]
      cases bs.reverse.find? (·.1 == name) with
      | some found => rfl
      | none =>
          by_cases hb : b.1 = name
          · subst hb
            simp [s.lookup?_insert_self]
          · have hne : (b.1 == name) = false := by simpa using hb
            simp [s.lookup?_insert_of_ne b.2 (Ne.symm hb), hne]

-- Of what is bound to a name the last counts.
theorem Scope.lookup?_insertAll_map {α : Type} (bs : List α) (name : α → String)
    (meaning : α → Symbolic) (variableName : String) :
    (Scope.empty.insertAll (bs.map fun b => (name b, meaning b))).lookup? variableName =
      (bs.reverse.find? (name · == variableName)).map meaning := by
  have hempty : Scope.empty.lookup? variableName = none := rfl
  rw [Scope.lookup?_insertAll, hempty, Option.or_none, ← List.map_reverse, List.find?_map,
    Option.map_map]
  rfl

namespace Transform

-- In a row in which every column has a value every port stands for one.
theorem rowBindings_map {α : Type} {bs : List α} (port : α → Port) {column : α → ValueColumn}
    {value : α → Value} {row : Nat} (h : ∀ b ∈ bs, (column b).value? row = some (value b)) :
    rowBindings (bs.map port) (bs.map column) row =
      bs.map fun b => ((port b).name, .scalar ((port b).type.normalize (value b))) := by
  rw [rowBindings, List.zip_map', List.filterMap_map, ← List.filterMap_eq_map]
  refine List.filterMap_congr fun b hb => ?_
  simp only [Function.comp_apply, h b hb, Option.map_some]

-- Each port beside the column that it stands for.
abbrev Bound := List (Port × ValueColumn)

namespace Bound

-- The last port of a name counts.
def last? (bound : Bound) (name : String) : Option (Port × ValueColumn) :=
  bound.reverse.find? (·.1.name == name)

-- The scalar types of the ports by name.
def portType? (bound : Bound) (name : String) : Option ScalarType :=
  (bound.last? name).bind (·.1.type.scalarType?)

-- What the ports stand for in a row.
def rowScope (bound : Bound) (row : Nat) : Scope :=
  Scope.empty.insertAll (rowBindings (bound.map (·.1)) (bound.map (·.2)) row)

-- The values that the ports stand for in a row.
def cells (bound : Bound) (row : Nat) (name : String) : Option Value :=
  ((bound.rowScope row).value name).toOption

-- What the ports stand for over the frame.
def columnScope (bound : Bound) : Scope :=
  Scope.empty.insertAll
    (List.zipWith columnBinding (bound.map (·.1)) (bound.map (·.2.toFrameColumn)))

-- The columns are of scalar types, and their values can stand where the ports ask for them.
structure Fits (bound : Bound) (rows : Nat) : Prop where
  holds : ∀ b ∈ bound, ∃ σ τ, b.2.Holds σ ∧ b.1.type.scalarType? = some τ ∧
    (σ = τ ∨ (σ = .integer ∧ τ = .decimal))
  length : ∀ b ∈ bound, b.2.length = rows

theorem mem_of_last? {bound : Bound} {name : String} {b : Port × ValueColumn}
    (h : bound.last? name = some b) : b ∈ bound :=
  List.mem_reverse.mp (List.mem_of_find?_eq_some h)

theorem lookup?_columnScope (bound : Bound) (name : String) :
    bound.columnScope.lookup? name =
      (bound.last? name).map fun b => (columnBinding b.1 b.2.toFrameColumn).2 := by
  rw [columnScope, List.zipWith_map, List.zipWith_self]
  exact Scope.lookup?_insertAll_map bound (·.1.name) _ name

-- In a row that exists every port stands for a value.
theorem lookup?_rowScope {bound : Bound} {rows row : Nat} (h : bound.Fits rows) (hrow : row < rows)
    (name : String) : (bound.rowScope row).lookup? name =
      (bound.last? name).bind fun b =>
        (b.2.value? row).map fun v => .scalar (b.1.type.normalize v) := by
  have hvalue (b : Port × ValueColumn) (hb : b ∈ bound) :
      ∃ v, b.2.value? row = some v := by
    have hlt : row < b.2.values.length := by
      have := h.length b hb
      rw [ValueColumn.length] at this
      omega
    exact ⟨_, List.getElem?_eq_getElem hlt⟩
  have hbindings : rowBindings (bound.map (·.1)) (bound.map (·.2)) row =
      bound.map fun b =>
        (b.1.name, .scalar (b.1.type.normalize ((b.2.value? row).getD default))) := by
    refine rowBindings_map Prod.fst fun b hb => ?_
    obtain ⟨v, hv⟩ := hvalue b hb
    rw [hv, Option.getD_some]
  rw [rowScope, hbindings, Scope.lookup?_insertAll_map bound (·.1.name), ← last?]
  cases hlast : bound.last? name with
  | none => rfl
  | some b =>
      obtain ⟨v, hv⟩ := hvalue b (mem_of_last? hlast)
      simp only [hv, Option.map_some, Option.getD_some, Option.bind_some]

end Bound

end Transform

namespace ValueType

theorem normalize_same {type : ValueType} {σ : ScalarType} (htype : type.scalarType? = some σ)
    {v : Value} (hv : v.scalarType? = some σ) : type.normalize v = v := by
  rw [type.normalize_of_scalarType? htype]
  cases σ <;> cases v <;> cases hv <;> rfl

theorem normalize_integer {type : ValueType} (htype : type.scalarType? = some .decimal)
    (n : Int64) : type.normalize (.integer n) = .decimal (.ofInt64 n) := by
  rw [type.normalize_of_scalarType? htype]
  rfl

end ValueType

namespace Transform.Bound

open Formula Operand

variable {bound : Bound} {rows row : Nat}

-- The value of a port in a row, and the cell that stands for it over the frame.
private theorem exists_value (h : bound.Fits rows) (hrow : row < rows) {b : Port × ValueColumn}
    (hb : b ∈ bound) {τ : ScalarType} (hτ : b.1.type.scalarType? = some τ) :
    ∃ v, b.2.value? row = some v ∧ (b.1.type.normalize v).scalarType? = some τ ∧
      (b.1.type.normalize v).isFinite = true := by
  obtain ⟨σ, τ', ⟨hσ, hvalues⟩, hτ', hconvert⟩ := h.holds b hb
  obtain rfl := Option.some.inj (hτ'.symm.trans hτ)
  have hlt : row < b.2.values.length := by
    have := h.length b hb
    rw [ValueColumn.length] at this
    omega
  have hv := (b.2.type.represents_of_scalarType? hσ _).mp
    (hvalues b.2.values[row] (List.getElem_mem hlt))
  refine ⟨_, List.getElem?_eq_getElem hlt, ?_⟩
  rcases hconvert with rfl | ⟨rfl, rfl⟩
  · rw [ValueType.normalize_same hτ hv.1]
    exact hv
  · generalize b.2.values[row] = v at hv
    cases v <;> cases hv.1
    rw [ValueType.normalize_integer hτ]
    exact ⟨rfl, Decimal.ofInt64_isFinite _⟩

theorem rowScope_holds (h : bound.Fits rows) (hrow : row < rows) :
    (bound.rowScope row).Holds bound.portType? (bound.cells row) := by
  intro name τ hname
  obtain ⟨b, hlast, hτ⟩ := Option.bind_eq_some_iff.mp hname
  obtain ⟨v, hv, hscalar, hfinite⟩ := exists_value h hrow (mem_of_last? hlast) hτ
  have hlookup : (bound.rowScope row).lookup? name = some (.scalar (b.1.type.normalize v)) := by
    rw [lookup?_rowScope h hrow, hlast, Option.bind_some, hv, Option.map_some]
  refine ⟨_, ?_, hlookup, hscalar, hfinite⟩
  rw [cells, Scope.value, hlookup]
  rfl

-- Words are converted as the form of a value is changed.
private theorem exists_cast {x : Operand} (hx : x.Fits rows .integer) {type : ValueType}
    (htype : type.scalarType? = some .decimal) :
    ∃ z, x.cast .float64 = .ok z ∧ z.Fits rows .decimal ∧
      ∀ row, z.value? row = (x.value? row).map type.normalize := by
  obtain ⟨s, datum⟩ := x
  obtain ⟨rfl, -⟩ := id hx
  refine ⟨⟨.float64, datum.map fun n : Int64 => some (Decimal.ofInt n.toInt)⟩, rfl, ?_⟩
  have hcell (n : Int64) : (some (Decimal.ofInt n.toInt)).bind DataType.float64.cellValue? =
      (DataType.int64.cellValue? n).bind fun v => some (type.normalize v) := by
    show some (Value.decimal _) = some (type.normalize (.integer n))
    rw [ValueType.normalize_integer htype]
    rfl
  have hmap := maps_map (τ := .decimal) hx rfl hcell
  refine ⟨hmap.1, fun row => (hmap.2 row).trans ?_⟩
  cases value? ⟨.int64, datum⟩ row <;> rfl

-- The series of a column, converted if the port asks for it.
private theorem exists_operand (h : bound.Fits rows) {series? : String → Option Series}
    {b : Port × ValueColumn} (hb : b ∈ bound)
    (hseries : series? b.2.name = some b.2.toFrameColumn.series) {τ : ScalarType}
    (hτ : b.1.type.scalarType? = some τ) :
    ∃ formula z, (columnBinding b.1 b.2.toFrameColumn).2 = .column formula ∧
      formula.evaluate series? = .ok z ∧ z.Fits rows τ ∧
      ∀ row, z.value? row = (b.2.value? row).map b.1.type.normalize := by
  obtain ⟨σ, τ', hholds, hτ', hconvert⟩ := h.holds b hb
  obtain rfl := Option.some.inj (hτ'.symm.trans hτ)
  have hlength : b.2.toFrameColumn.series.cells.length = rows :=
    b.2.length_toFrameColumn.trans (h.length b hb)
  have htype : b.2.toFrameColumn.series.type = σ.dataType := Series.type_ofValues hholds.1 _
  have hvalue := b.2.value?_toFrameColumn hholds
  have hport := ValueType.dataType_of_scalarType? hτ
  have hcolumn : Formula.evaluate series? (.column b.2.name) =
      .ok (ofSeries b.2.toFrameColumn.series) := by
    rw [Formula.evaluate, hseries]
  rcases hconvert with rfl | ⟨rfl, rfl⟩
  · refine ⟨_, _, ?_, hcolumn, ⟨htype, hlength⟩, fun row => ?_⟩
    · rw [columnBinding, hport, if_pos htype]
      rfl
    · refine (hvalue row).trans ?_
      cases hv : b.2.value? row with
      | none => rfl
      | some v =>
          have hmem : v ∈ b.2.values := List.mem_of_getElem? hv
          have hscalar := (b.2.type.represents_of_scalarType? hholds.1 v).mp (hholds.2 v hmem)
          rw [Option.map_some, ValueType.normalize_same hτ hscalar.1]
  · have hfits : (ofSeries b.2.toFrameColumn.series).Fits rows .integer := ⟨htype, hlength⟩
    obtain ⟨z, hz, hfits, hcast⟩ := exists_cast hfits hτ
    refine ⟨.cast (.column b.2.name) .float64, z, ?_, ?_, hfits, fun row => ?_⟩
    · have hne : b.2.toFrameColumn.series.type ≠ .float64 := by
        rw [htype]
        decide
      rw [columnBinding, hport, if_neg hne]
      rfl
    · rw [Formula.evaluate, hcolumn]
      exact hz
    · exact (hcast row).trans (congrArg _ (hvalue row))

theorem columnScope_covers (h : bound.Fits rows) {series? : String → Option Series}
    (hseries : ∀ b ∈ bound, series? b.2.name = some b.2.toFrameColumn.series) :
    bound.columnScope.Covers series? rows bound.portType? bound.cells := by
  intro name τ hname
  obtain ⟨b, hlast, hτ⟩ := Option.bind_eq_some_iff.mp hname
  have hb := mem_of_last? hlast
  obtain ⟨formula, z, hbinding, hz, hfits, hvalue⟩ := exists_operand h hb (hseries b hb) hτ
  refine ⟨formula, z, ?_, hz, hfits, fun row hrow => ?_⟩
  · rw [lookup?_columnScope, hlast, Option.map_some, hbinding]
  · rw [hvalue, cells, Scope.value, lookup?_rowScope h hrow, hlast, Option.bind_some]
    obtain ⟨v, hv, -⟩ := exists_value h hrow hb hτ
    rw [hv]
    rfl

end Transform.Bound

end TableFlow
