import TableFlow.Proofs.Scalar
import TableFlow.Table.Frame

namespace TableFlow

namespace DataType

variable {t : DataType} {cell : t.Cell} {v : Value}

-- The number in a cell of an integer type is one of the numbers of the type.
def Fits (t : DataType) (cell : t.Cell) : Prop :=
  ∀ read ∈ t.number?, ∀ range ∈ t.range?, ((read cell).toInt? range).isSome = true

theorem Number.isSome_toInt?_whole {n : Int} {range : Int × Int} :
    ((Number.whole n).toInt? range).isSome = true ↔ range.1 ≤ n ∧ n ≤ range.2 := by
  simp [toInt?, Option.isSome_filter]

theorem exists_scalarType? (t : DataType) : ∃ σ, t.valueType.scalarType? = some σ := by
  cases t <;> exact ⟨_, rfl⟩

-- What is read is of the type that the column reports.
theorem scalarType?_of_cellValue? (h : t.cellValue? cell = some v) :
    v.scalarType? = t.valueType.scalarType? := by
  cases t with
  | boolean | int64 | float32 | float64 | utf8 | largeUtf8 =>
      cases h
      rfl
  | int8 | int16 | int32 | uint8 | uint16 | uint32 =>
      obtain ⟨n, -, rfl⟩ := Option.map_eq_some_iff.mp h
      rfl
  | uint64 | binary | date32 | other => cases h
  | null => cases cell

theorem represents_cellValue?_iff (h : t.cellValue? cell = some v) :
    t.valueType.represents v = true ↔ v.isFinite = true := by
  obtain ⟨σ, hσ⟩ := t.exists_scalarType?
  rw [t.valueType.represents_of_scalarType? hσ, scalarType?_of_cellValue? h, hσ]
  exact and_iff_right rfl

-- The integers of all types with a value type are words.
theorem cellValue?_eq_none_iff (h : t.Fits cell) :
    t.cellValue? cell = none ↔ ∃ error, t.valueType? = .error error := by
  have hword {n : Int} {range : Int × Int}
      (hn : ((Number.whole n).toInt? range).isSome = true) (hlow : -2 ^ 63 ≤ range.1)
      (hhigh : range.2 < 2 ^ 63) : ¬ (Integer.ofInt? n).map Value.integer = none := by
    have hbounds := Number.isSome_toInt?_whole.mp hn
    rw [Option.map_eq_none_iff, Integer.ofInt?_eq_none_iff]
    omega
  cases t with
  | boolean | int64 | float32 | float64 | utf8 | largeUtf8 =>
      exact iff_of_false nofun nofun
  | int8 | int16 | int32 | uint8 | uint16 | uint32 =>
      exact iff_of_false (hword (h _ rfl _ rfl) (by decide) (by decide)) nofun
  | uint64 | binary | date32 | other => exact iff_of_true rfl ⟨_, rfl⟩
  | null => cases cell

end DataType

namespace Series

variable {s : Series} {index : Nat} {v : Value}

-- The place is behind the end of the series, or its cell is null.
def IsMissing (s : Series) (index : Nat) : Prop :=
  s.length ≤ index ∨ s.cells[index]? = some none

theorem isMissing_iff : s.IsMissing index ↔ s.cells[index]?.join = none := by
  rw [IsMissing, length, ← List.getElem?_eq_none_iff]
  rcases s.cells[index]? with _ | _ | cell <;> simp

theorem value?_eq_none_iff (hfits : ∀ cell, some cell ∈ s.cells → s.type.Fits cell) :
    s.value? index = none ↔ s.IsMissing index ∨ ∃ error, s.type.valueType? = .error error := by
  rw [value?, isMissing_iff]
  cases hcell : s.cells[index]?.join with
  | none => simp
  | some cell =>
      have hmem := List.mem_of_getElem? (Option.join_eq_some_iff.mp hcell)
      rw [Option.bind_some, DataType.cellValue?_eq_none_iff (hfits cell hmem)]
      simp

theorem represents_value?_iff (h : s.value? index = some v) :
    s.type.valueType.represents v = true ↔ v.isFinite = true := by
  obtain ⟨cell, -, hcell⟩ := Option.bind_eq_some_iff.mp h
  exact DataType.represents_cellValue?_iff hcell

theorem mem_values_iff : some v ∈ s.values ↔ ∃ index, s.value? index = some v := by
  rw [List.mem_iff_getElem?]
  refine exists_congr fun index => ?_
  rw [values, List.getElem?_map, value?]
  cases s.cells[index]? <;> simp

end Series

namespace FrameColumn

-- Nothing that is in the column is read as missing, and what is read is of the type of the column.
structure ReadsTyped (c : FrameColumn) : Prop where
  missing (index : Nat) : c.series.value? index = none ↔ c.series.IsMissing index
  represents (index : Nat) (v : Value) (h : c.series.value? index = some v) :
    c.type.represents v = true

-- The columns that are read as they are typed. In all others data of a type without a value type are
-- missing, or there is a decimal that is not finite.
theorem readsTyped_iff (c : FrameColumn)
    (hfits : ∀ cell, some cell ∈ c.series.cells → c.series.type.Fits cell) :
    (∀ index, c.series.value? index = none ↔
      c.series.IsMissing index ∨ ∃ error, c.series.type.valueType? = .error error) ∧
    (∀ index v, c.series.value? index = some v →
      (c.type.represents v = true ↔ v.isFinite = true)) ∧
    (c.ReadsTyped ↔
      ((∃ type, c.series.type.valueType? = .ok type) ∨ ∀ cell ∈ c.series.cells, cell = none) ∧
        ∀ v, some v ∈ c.series.values → v.isFinite = true) := by
  have hnone (index : Nat) : c.series.value? index = none ↔
      c.series.IsMissing index ∨ ∃ error, c.series.type.valueType? = .error error :=
    Series.value?_eq_none_iff hfits
  have hrepresents (index : Nat) (v : Value) (hv : c.series.value? index = some v) :
      c.type.represents v = true ↔ v.isFinite = true := Series.represents_value?_iff hv
  refine ⟨hnone, hrepresents, ?_, ?_⟩
  · rintro ⟨hmissing, hrepresented⟩
    refine ⟨?_, fun v hv => ?_⟩
    · cases htype : c.series.type.valueType? with
      | ok type => exact .inl ⟨type, rfl⟩
      | error error =>
          refine .inr fun cell hcell => ?_
          obtain ⟨index, hindex⟩ := List.mem_iff_getElem?.mp hcell
          have hread := (hmissing index).mp ((hnone index).mpr (.inr ⟨error, htype⟩))
          rw [Series.isMissing_iff, hindex] at hread
          exact hread
    · obtain ⟨index, hindex⟩ := Series.mem_values_iff.mp hv
      exact (hrepresents index v hindex).mp (hrepresented index v hindex)
  · rintro ⟨htype, hfinite⟩
    refine ⟨fun index => ?_, fun index v hv => ?_⟩
    · refine (hnone index).trans (or_iff_left_of_imp ?_)
      rintro ⟨error, herror⟩
      rcases htype with ⟨type, htype⟩ | hnulls
      · rw [htype] at herror
        cases herror
      · rw [Series.isMissing_iff]
        cases hcell : c.series.cells[index]? with
        | none => rfl
        | some cell => rw [hnulls cell (List.mem_of_getElem? hcell)]; rfl
    · exact (hrepresents index v hv).mpr (hfinite v (Series.mem_values_iff.mpr ⟨index, hv⟩))

-- A short integer and a null.
theorem readsTyped_iff_short : ReadsTyped ⟨"x", .int8, [some (5 : Int), none]⟩ := by
  have hfits : ∀ cell, some cell ∈ [some (5 : Int), none] → DataType.int8.Fits cell := by
    intro cell hcell
    obtain rfl : cell = 5 := by simpa using hcell
    rintro read ⟨⟩ range ⟨⟩
    decide
  refine (readsTyped_iff ⟨"x", .int8, [some (5 : Int), none]⟩ hfits).2.2.mpr ⟨.inl ⟨_, rfl⟩, ?_⟩
  intro v hv
  have hvalues : some v ∈ [some (Value.integer 5), none] := hv
  obtain rfl : v = .integer 5 := by simpa using hvalues
  rfl

-- An integer without a sign is read as missing from a column of texts, and an infinity is read from
-- a column of decimals.
theorem unsigned_read_as_missing :
    let unsigned : FrameColumn := ⟨"x", .uint64, [some (5 : Int)]⟩
    let infinite : FrameColumn := ⟨"x", .float64, [some (.infinite false)]⟩
    (unsigned.series.value? 0 = none ∧ ¬ unsigned.series.IsMissing 0 ∧ unsigned.type = .text ∧
      (∀ cell, some cell ∈ unsigned.series.cells → DataType.uint64.Fits cell) ∧
      ¬ unsigned.ReadsTyped) ∧
    infinite.series.value? 0 = some (.decimal (.infinite false)) ∧ infinite.type = .decimal ∧
      infinite.type.represents (.decimal (.infinite false)) = false ∧ ¬ infinite.ReadsTyped := by
  intro unsigned infinite
  have hpresent : ¬ unsigned.series.IsMissing 0 := by
    rintro (hlength | ⟨⟨⟩⟩)
    exact absurd hlength (by decide)
  have hfits : ∀ cell, some cell ∈ unsigned.series.cells → DataType.uint64.Fits cell := by
    intro cell hcell
    obtain rfl : cell = (5 : Int) := by simpa [unsigned] using hcell
    rintro read ⟨⟩ range ⟨⟩
    decide
  refine ⟨⟨rfl, hpresent, rfl, hfits, fun h => hpresent ((h.missing 0).mp rfl)⟩, rfl, rfl, ?_, ?_⟩
  · decide
  · intro h
    exact absurd (h.represents 0 _ rfl) (by decide)

end FrameColumn

end TableFlow
