import TableFlow.Proofs.Blocks.TableTransformer

namespace TableFlow

namespace ValueType

variable {t u : ValueType} {p : Primitive}

-- Atomic types are only converted to along supertypes.
theorem supertype?_of_isConvertibleTo (h : (primitive p).isConvertibleTo u = true) :
    u.supertype? = none := by
  cases u with
  | atomic => simp [isConvertibleTo] at h
  | _ => rfl

theorem same_atomic_eq_false {identity : Nat} {name : String} {supertype : ValueType}
    {constraints : List Constraint} (hu : u.supertype? = none) :
    (atomic identity name supertype constraints).same u = false := by
  cases u with
  | atomic => simp [supertype?] at hu
  | _ => simp [same]

-- Towards types that are not atomic only the end of the chain of supertypes matters.
theorem isConvertibleTo_of_primitive? (ht : t.primitive? = some p) (hu : u.supertype? = none) :
    t.isConvertibleTo u = (primitive p).isConvertibleTo u := by
  fun_induction primitive? t with
  | case1 q => rw [Option.some.inj ht]
  | case2 identity name supertype constraints ih =>
      rw [isConvertibleTo, same_atomic_eq_false hu, Bool.false_or]
      exact ih ht
  | case3 => simp at ht
  | case4 => simp at ht

-- The type that a column of a frame has for the type of its values.
def held (t : ValueType) : ValueType := t.dataType.valueType

theorem held_of_scalarType? {σ : ScalarType} (h : t.scalarType? = some σ) :
    t.held = σ.valueType := by
  rw [held, dataType_of_scalarType? h]
  cases σ <;> rfl

theorem held_isConvertibleTo {σ : ScalarType} (ht : t.scalarType? = some σ) :
    t.held.isConvertibleTo u = true ↔ t.isConvertibleTo u = true ∧ u.supertype? = none := by
  have hprimitive := primitive?_of_scalarType? ht
  rw [held_of_scalarType? ht, ScalarType.valueType]
  constructor
  · intro h
    have hu := supertype?_of_isConvertibleTo h
    exact ⟨(isConvertibleTo_of_primitive? hprimitive hu).trans h, hu⟩
  · intro ⟨h, hu⟩
    exact (isConvertibleTo_of_primitive? hprimitive hu).symm.trans h

end ValueType

theorem ValueTable.columnType?_on {t : ValueTable}
    (ht : ∀ c ∈ t.columns, c.type.scalarType?.isSome) (name : String) :
    (t.on .columnar).columnType? name = ((t.on .array).columnType? name).map ValueType.held := by
  have hfind : t.columns.find? ((fun c => c.name == name) ∘ (·.toFrameColumn)) = t.column? name :=
    rfl
  simp only [on, Table.columnType?, Table.column?, Frame.column?, toFrame, List.find?_map,
    Option.map_map, hfind]
  cases hc : t.column? name with
  | none => rfl
  | some c =>
      obtain ⟨σ, hσ⟩ := Option.isSome_iff_exists.mp (ht c (List.mem_of_find?_eq_some hc))
      have htype : c.toFrameColumn.type = c.type.held := by
        rw [FrameColumn.type, ValueColumn.toFrameColumn, FrameColumn.ofValues,
          Series.type_ofValues hσ, ValueType.held, ValueType.dataType_of_scalarType? hσ]
      simp only [Option.map_some, Function.comp_apply, Column.type, htype]

namespace TableTransformer

variable {c : Context} {table : Table} {names : List String} {ports : List Port}

-- A transform may be applied to the columns named.
def Accepts (c : Context) (table : Table) (names : List String) (transform : Transform) : Prop :=
  (checkInputs c table names).result = .ok () ∧
    (checkTypes c table names transform.inputs).result = .ok ()

-- A port takes the column of a name.
def Takes (table : Table) (name : String) (port : Port) : Prop :=
  ∃ type, table.columnType? name = some type ∧ type.isConvertibleTo port.type = true

theorem checkInputs_eq_ok :
    (checkInputs c table names).result = .ok () ↔ ∀ name ∈ names, table.hasColumn name = true := by
  have hmem (name : String) : name ∈ names ↔ ∃ index, (name, index) ∈ names.zipIdx := by
    rw [List.mem_iff_getElem?]
    simp only [List.mem_zipIdx_iff_getElem?]
  rw [checkInputs]
  split
  next hnone =>
    refine iff_of_true rfl fun name hname => ?_
    obtain ⟨index, hindex⟩ := (hmem name).mp hname
    simpa using List.find?_eq_none.mp hnone (name, index) hindex
  next name index hsome =>
    have hcolumn : table.hasColumn name = false := by simpa using List.find?_some hsome
    have hname := (hmem name).mpr ⟨index, List.mem_of_find?_eq_some hsome⟩
    refine iff_of_false (fun h => by cases h) fun h => ?_
    rw [h name hname] at hcolumn
    cases hcolumn

theorem misfit?_eq_none {name : String} {port : Port} (h : table.hasColumn name = true) :
    misfit? table (name, port) = none ↔ Takes table name port := by
  obtain ⟨column, hcolumn⟩ := Option.isSome_iff_exists.mp h
  have htype : table.columnType? name = some column.type := by
    rw [Table.columnType?, hcolumn, Option.map_some]
  simp only [misfit?, Takes, htype, Option.some.injEq, exists_eq_left']
  split <;> simp_all

theorem checkTypes_eq_ok :
    (checkTypes c table names ports).result = .ok () ↔
      ports.length = names.length ∧ ∀ pair ∈ names.zip ports, misfit? table pair = none := by
  rw [checkTypes]
  by_cases hlength : ports.length = names.length
  · rw [if_neg (not_not_intro hlength), ← List.findSome?_eq_none_iff, and_iff_right hlength]
    split
    next hnone => exact iff_of_true rfl hnone
    next hsome => exact iff_of_false (fun h => by cases h) (by simp [hsome])
  · rw [if_pos hlength]
    exact iff_of_false (fun h => by cases h) fun h => hlength h.1

-- The checks come down to one port for each name, each with a column that it takes.
theorem accepts_iff {transform : Transform} :
    Accepts c table names transform ↔ List.Forall₂ (Takes table) names transform.inputs := by
  rw [Accepts, checkInputs_eq_ok, checkTypes_eq_ok, List.forall₂_iff_zip]
  constructor
  · intro ⟨hcolumns, hlength, htypes⟩
    refine ⟨hlength.symm, fun {name port} hpair => ?_⟩
    have hname := hcolumns name (List.of_mem_zip hpair).1
    exact (misfit?_eq_none hname).mp (htypes _ hpair)
  · intro ⟨hlength, htakes⟩
    have hcolumn {name : String} {port : Port} (h : Takes table name port) :
        table.hasColumn name = true := by
      obtain ⟨type, htype, -⟩ := h
      rw [Table.columnType?] at htype
      exact Option.isSome_iff_exists.mpr ((Option.map_eq_some_iff.mp htype).imp fun _ h => h.1)
    refine ⟨fun name hname => ?_, hlength.symm, fun pair hpair => ?_⟩
    · obtain ⟨i, hi, rfl⟩ := List.getElem_of_mem hname
      have hpair : (names[i], transform.inputs[i]) ∈ names.zip transform.inputs := by
        rw [← List.getElem_zip (h := by simp; omega)]
        exact List.getElem_mem _
      exact hcolumn (htakes hpair)
    · have htake := htakes hpair
      exact (misfit?_eq_none (hcolumn htake)).mpr htake

theorem takes_on_columnar {t : ValueTable} (ht : ∀ c ∈ t.columns, c.type.scalarType?.isSome)
    (name : String) (port : Port) :
    Takes (t.on .columnar) name port ↔
      Takes (t.on .array) name port ∧ port.type.supertype? = none := by
  rw [Takes, Takes, ValueTable.columnType?_on ht]
  cases htype : (t.on .array).columnType? name with
  | none => simp
  | some type =>
      obtain ⟨c, hc, rfl⟩ : ∃ c ∈ t.columns, c.type = type := by
        simp only [ValueTable.on, Table.columnType?, Table.column?, Option.map_map,
          Option.map_eq_some_iff] at htype
        obtain ⟨c, hc, hct⟩ := htype
        exact ⟨c, List.mem_of_find?_eq_some hc, hct⟩
      obtain ⟨σ, hσ⟩ := Option.isSome_iff_exists.mp (ht c hc)
      simp only [Option.map_some, Option.some.injEq, exists_eq_left']
      exact ValueType.held_isConvertibleTo hσ

-- A transform is accepted for the columns of a frame exactly if it is accepted for those of the
-- table of values and none of its ports has an atomic type.
theorem accepts_columnar_iff (columns : List ValueColumn) (rows : Nat)
    (hnames : (columns.map (·.name)).Nodup) (hlength : ∀ column ∈ columns, column.length = rows)
    (htypes : ∀ column ∈ columns, column.type.scalarType?.isSome) :
    ∃ a b, Table.ofColumns .array columns = .ok a ∧ Table.ofColumns .columnar columns = .ok b ∧
      ∀ c names transform, Accepts c b names transform ↔
        Accepts c a names transform ∧ ∀ port ∈ transform.inputs, port.type.supertype? = none := by
  have hok := ValueTable.ofColumns_of_length hnames hlength
  refine ⟨_, _, ValueTable.ofColumns_on hnames hok .array,
    ValueTable.ofColumns_on hnames hok .columnar, fun c names transform => ?_⟩
  have htakes := takes_on_columnar (t := ⟨columns, if columns = [] then 0 else rows⟩) htypes
  rw [accepts_iff, accepts_iff]
  constructor
  · intro h
    have hports := (h.imp fun name port htake => ((htakes name port).mp htake).symm).flip
    obtain ⟨hatomic, htake⟩ := (List.forall₂_and_left ..).mp hports
    exact ⟨htake.flip, hatomic⟩
  · intro ⟨h, hatomic⟩
    have hports := (List.forall₂_and_left ..).mpr ⟨hatomic, h.flip⟩
    exact hports.flip.imp fun name port htake => (htakes name port).mpr htake.symm

-- One age, which can be doubled as an integer on both backends, but as an age only in a table of
-- values.
def age : ValueType := .atomic 0 "Age" .integer []

def ages : List ValueColumn := [⟨"age", age, [.integer 30]⟩]

def doubled (type : ValueType) : Transform :=
  .mk "Doubled" [.input "x" type, .output "y" .integer] "y"
    (.binary .add (.var "x" .unknown) (.var "x" .unknown) .unknown) .unknown

theorem accepts_columnar_iff_ages :
    ∃ a b, Table.ofColumns .array ages = .ok a ∧ Table.ofColumns .columnar ages = .ok b ∧
      Accepts numbersContext b ["age"] (doubled .integer) ∧
      ¬ Accepts numbersContext b ["age"] (doubled age) := by
  obtain ⟨a, b, ha, hb, haccepts⟩ :=
    accepts_columnar_iff ages 1 (by decide) (by decide) (by decide)
  refine ⟨a, b, ha, hb, ?_, ?_⟩
  · refine (haccepts _ _ _).mpr ⟨?_, by decide⟩
    cases ha
    exact ⟨rfl, rfl⟩
  · intro h
    have hatomic := ((haccepts _ _ _).mp h).2 (.input "x" age) (List.mem_cons_self ..)
    simp [Port.type, age, ValueType.supertype?] at hatomic

theorem ages_accepted_by_one_backend :
    ((ages.map (·.name)).Nodup ∧ (∀ column ∈ ages, column.length = 1) ∧
      ∀ column ∈ ages, column.type.scalarType?.isSome) ∧
    ∃ a b, Table.ofColumns .array ages = .ok a ∧ Table.ofColumns .columnar ages = .ok b ∧
      Accepts numbersContext a ["age"] (doubled age) ∧
      ¬ Accepts numbersContext b ["age"] (doubled age) := by
  refine ⟨⟨by decide, by decide, by decide⟩, _, _, rfl, rfl, ⟨rfl, rfl⟩, fun h => ?_⟩
  have hrefused := h.2
  cases hrefused

end TableTransformer

end TableFlow
