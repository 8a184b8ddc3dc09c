import TableFlow.Proofs.Execution
import TableFlow.Proofs.Expression.Outcome
import TableFlow.Proofs.ValueType.Order

namespace TableFlow

theorem ValueType.exists_represents_of_constraints {v : Value} {type : ValueType}
    (h : type.represents v = true) :
    ∃ root : ValueType, root.constraints = [] ∧ root.represents v = true := by
  match type with
  | .primitive p => exact ⟨.primitive p, rfl, h⟩
  | .atomic identity name supertype constraints =>
      rw [represents] at h
      exact exists_represents_of_constraints h
  | .collection element => exact ⟨.collection element, rfl, h⟩
  | .emptyCollection => exact ⟨.emptyCollection, rfl, h⟩

namespace ConstraintKind

-- What the test of a kind decides follows from the value and from the values of the properties that
-- it reads; neither what reading them has logged nor the place matters.
def DecidesByProperties (kind : ConstraintKind) : Prop :=
  ∀ (s s' : Site) (v : Value),
    (∀ name type, (s.property? name type).result = (s'.property? name type).result) →
      (kind.test s v).result = (kind.test s' v).result

-- Numbers and texts are looked at first, and only then the properties.
theorem decidesByProperties_of_mem_standard {kind : ConstraintKind} (h : kind ∈ standard) :
    kind.DecidesByProperties := by
  intro s s' value hread
  simp only [standard, List.mem_cons, List.not_mem_nil, or_false] at h
  rcases h with rfl | rfl | rfl | rfl | rfl
  · simp only [allowlist, Execution.result_bind, hread]
  · simp only [denylist, Execution.result_bind, hread]
  · simp only [regex, Execution.result_bind, hread]
  · simp only [range]
    cases value.number? with
    | none => rfl
    | some d => simp only [Execution.result_bind, hread]
  · simp only [length]
    cases value.text? with
    | none => rfl
    | some text => simp only [Execution.result_bind, hread]

end ConstraintKind

namespace Context

variable {c d : Context} {v : Value} {kinds : List ConstraintKind}

-- The contexts of one run differ in the nodes that have been entered.
def SameRun (c d : Context) : Prop := d = { c with nodes := d.nodes }

-- What satisfies a constraint of a kind satisfies it in all places of a run that knows the kinds.
def IgnoresPlace (kinds : List ConstraintKind) (kind : ConstraintKind) : Prop :=
  ∀ (c d : Context) (v : Value) (name : String) (properties : List Property) (location : Location),
    c.kinds = kinds → c.SameRun d → (∃ type : ValueType, type.represents v = true) →
    let node := Node.constraint (.typed name kind.name properties location)
    (kind.test (c.enter node).toSite v).result = .ok true →
      (kind.test (d.enter node).toSite v).result = .ok true

-- What is valid for a type in one place of a run that knows the kinds is valid for the type and for
-- all its supertypes in all places.
def Inherits (kinds : List ConstraintKind) : Prop :=
  ∀ (c d : Context) (v : Value) (t s : ValueType), c.kinds = kinds → c.SameRun d →
    (s = t ∨ s ∈ t.supertypes) →
      (c.isValid v t).result = .ok true → (d.isValid v s).result = .ok true

-- The property of a node is read alike, apart from the depth at which an error is logged.
theorem result_property?_enter (h : c.SameRun d) (node : Node) (name : String) (type : ValueType) :
    ((d.enter node).property? name type).result = ((c.enter node).property? name type).result := by
  have hproperty : (d.enter node).property name type = (c.enter node).property name type := by
    rw [h]
    rfl
  simp only [Site.property?, hproperty]
  split <;> rfl

theorem ignoresPlace_of_decidesByProperties {kind : ConstraintKind} (h : kind.DecidesByProperties) :
    IgnoresPlace kinds kind := by
  intro c d v name properties location hkinds hrun hform node htest
  rwa [h _ (c.enter node).toSite v fun name type => result_property?_enter hrun node name type]

-- A constraint is tested by the first kind of its name.
theorem satisfies_typed {name kindName : String} {properties : List Property} {location : Location}
    {kind : ConstraintKind} (h : c.kinds.find? (·.name == kindName) = some kind) :
    c.satisfies v (.typed name kindName properties location) =
      kind.test (c.enter (.constraint (.typed name kindName properties location))).toSite v := by
  have hkind : (c.enter (.constraint (.typed name kindName properties location))).constraintKind?
      kindName = some kind := h
  simp only [satisfies, test, hkind]

theorem satisfies_of_sameRun (hkinds : c.kinds = kinds)
    (hplace : ∀ kind, kinds.find? (·.name == kind.name) = some kind → IgnoresPlace kinds kind)
    (hrun : c.SameRun d) (hform : ∃ type : ValueType, type.represents v = true)
    {constraint : Constraint} (h : (c.satisfies v constraint).result = .ok true) :
    (d.satisfies v constraint).result = .ok true := by
  cases constraint with
  | expression name condition location =>
      rw [satisfies, test, Execution.result_bind] at h ⊢
      exact h
  | typed name kindName properties location =>
      have hsame : d.kinds = kinds := by
        rw [hrun]
        exact hkinds
      cases hkind : kinds.find? (·.name == kindName) with
      | none =>
          subst hkinds
          have hnone : (c.enter (.constraint (.typed name kindName properties
              location))).constraintKind? kindName = none := hkind
          simp only [satisfies, test, hnone] at h
          cases h
      | some kind =>
          obtain rfl : kind.name = kindName := by
            simpa using List.find?_some hkind
          rw [satisfies_typed (hkinds ▸ hkind)] at h
          rw [satisfies_typed (hsame ▸ hkind)]
          exact hplace kind hkind c d v name properties location hkinds hrun hform h

-- By induction on the constraints: none is skipped if all are satisfied.
theorem satisfiesAll_iff {constraints : List Constraint} :
    (c.satisfiesAll v constraints).result = .ok true ↔
      ∀ k ∈ constraints, (c.satisfies v k).result = .ok true := by
  induction constraints with
  | nil => exact ⟨fun _ k hk => (by cases hk), fun _ => rfl⟩
  | cons first rest ih =>
      rw [List.forall_mem_cons, ← ih, satisfiesAll]
      constructor
      · intro h
        obtain ⟨satisfied, hfirst, hrest⟩ := Execution.exists_of_result_bind h
        cases satisfied with
        | true => exact ⟨hfirst, hrest⟩
        | false => cases hrest
      · rintro ⟨hfirst, hrest⟩
        rw [Execution.result_bind_ok hfirst]
        exact hrest

theorem isValid_iff {type : ValueType} :
    (c.isValid v type).result = .ok true ↔
      type.represents v = true ∧ ∀ k ∈ type.constraints, (c.satisfies v k).result = .ok true := by
  rw [isValid]
  split
  next hv =>
    rw [satisfiesAll_iff]
    exact ⟨fun h => ⟨hv, h⟩, fun h => h.2⟩
  next hv => exact ⟨fun h => (by cases h), fun h => absurd h.1 hv⟩

-- In one context nothing is asked of the kinds of constraints.
theorem isValid_of_supertype {t s : ValueType} (hs : s = t ∨ s ∈ t.supertypes)
    (h : (c.isValid v t).result = .ok true) : (c.isValid v s).result = .ok true := by
  rcases hs with rfl | hs
  · exact h
  obtain ⟨hform, hsatisfied⟩ := isValid_iff.mp h
  refine isValid_iff.mpr ⟨?_, fun k hk => hsatisfied k (ValueType.constraints_subset hs hk)⟩
  rw [ValueType.represents_of_mem_supertypes hs, hform]

theorem inherits_of_ignoresPlace
    (h : ∀ kind, kinds.find? (·.name == kind.name) = some kind → IgnoresPlace kinds kind) :
    Inherits kinds := by
  intro c d v t s hkinds hrun hs hvalid
  obtain ⟨hform, hsatisfied⟩ := isValid_iff.mp (isValid_of_supertype hs hvalid)
  exact isValid_iff.mpr ⟨hform, fun k hk =>
    satisfies_of_sameRun hkinds h hrun ⟨s, hform⟩ (hsatisfied k hk)⟩

-- A type with one constraint of the kind on values of a form shows what the kind does.
theorem ignoresPlace_of_inherits (h : Inherits kinds) {kind : ConstraintKind}
    (hfind : kinds.find? (·.name == kind.name) = some kind) : IgnoresPlace kinds kind := by
  intro c d v name properties location hkinds hrun hform node htest
  obtain ⟨type, htype⟩ := hform
  obtain ⟨root, hroot, hform⟩ := ValueType.exists_represents_of_constraints htype
  let k : Constraint := .typed name kind.name properties location
  let s : ValueType := .atomic 0 name root [k]
  have hconstraints : s.constraints = [k] := by
    simp only [s, ValueType.constraints, hroot, List.append_nil]
  have hrepresents : s.represents v = true := by
    rw [ValueType.represents, hform]
  have hsame : d.kinds = kinds := by
    rw [hrun]
    exact hkinds
  have hvalid : (c.isValid v s).result = .ok true := by
    refine isValid_iff.mpr ⟨hrepresents, fun k' hk' => ?_⟩
    rw [hconstraints, List.mem_singleton] at hk'
    rw [hk', satisfies_typed (hkinds ▸ hfind)]
    exact htest
  have hsatisfied := (isValid_iff.mp (h c d v s s hkinds hrun (.inl rfl) hvalid)).2 k
    (hconstraints ▸ List.mem_singleton_self k)
  rwa [satisfies_typed (hsame ▸ hfind)] at hsatisfied

-- Validity is inherited by supertypes, whatever kinds of constraints a run knows. It is inherited in
-- all places of the run exactly if no kind that is found by its name distinguishes the places of a
-- constraint. The standard kinds do not, nor do kinds that decide by the properties.
theorem isValid_supertype_iff (kinds : List ConstraintKind) :
    (∀ (c : Context) (v : Value) (t s : ValueType), c.kinds = kinds →
      (s = t ∨ s ∈ t.supertypes) →
        (c.isValid v t).result = .ok true → (c.isValid v s).result = .ok true) ∧
    (Inherits kinds ↔
      ∀ kind, kinds.find? (·.name == kind.name) = some kind → IgnoresPlace kinds kind) ∧
    ((∀ kind ∈ kinds, kind ∈ ConstraintKind.standard ∨ kind.DecidesByProperties) →
      Inherits kinds) := by
  refine ⟨fun c v t s _ hs h => isValid_of_supertype hs h, ⟨fun h kind hfind =>
    ignoresPlace_of_inherits h hfind, inherits_of_ignoresPlace⟩, fun h => ?_⟩
  refine inherits_of_ignoresPlace fun kind hfind => ignoresPlace_of_decidesByProperties ?_
  exact (h kind (List.mem_of_find?_eq_some hfind)).elim
    ConstraintKind.decidesByProperties_of_mem_standard id

-- A share is a decimal that is not negative, and a discount a share up to a limit that is given to
-- the run as a parameter.
def share : ValueType :=
  .atomic 0 "Share" .decimal [.expression "NotNegative" (.binary .greaterEqual
    (.var "value" .unknown) (.literal (.integer 0) .unknown) .unknown) .unknown]

def discount : ValueType :=
  .atomic 1 "Discount" share [.typed "Limited" "RangeConstraint"
    [.mk "upperBound" (.runtimeParameter "limit") .unknown] .unknown]

-- The outermost place of a run that knows some kinds of constraints.
def sales (kinds : List ConstraintKind) : Context where
  pipeline := ⟨"Sales", [], [], .unknown⟩
  settings := { Settings.standard with parameters := ⟨[("limit", "0.5")]⟩ }
  blocks := []
  constraints := kinds.map (·.toConstraintSpec)
  nodes := []
  kinds := kinds

def loading : Node := .block ⟨"Load", "TableInterpreter", [], .unknown⟩

theorem isValid_supertype_discounts :
    ((sales ConstraintKind.standard).isValid (.decimal .half) discount).result = .ok true ∧
      (((sales ConstraintKind.standard).enter loading).isValid (.decimal .half) share).result =
        .ok true := by
  have h : ((sales ConstraintKind.standard).isValid (.decimal .half) discount).result = .ok true :=
    Outcome.toOption_eq_some (by decide +kernel)
  have hshare : share ∈ discount.supertypes := List.mem_cons_self ..
  obtain ⟨-, -, hinherits⟩ := isValid_supertype_iff ConstraintKind.standard
  exact ⟨h, hinherits (fun _ hkind => .inl hkind) _ _ _ _ _ rfl rfl (.inr hshare) h⟩

-- A kind that accepts every value, but only inside of another node.
def nested : ConstraintKind where
  name := "NestedConstraint"
  properties := []
  test site _ := return decide (1 < site.depth)

def bounded : ValueType :=
  .atomic 0 "Bounded" .integer [.typed "Nested" "NestedConstraint" [] .unknown]

def tight : ValueType := .atomic 1 "Tight" bounded []

theorem nested_validity_not_inherited :
    let root := sales [nested]
    (root.enter loading).SameRun root ∧ bounded ∈ tight.supertypes ∧
      ((root.enter loading).isValid (.integer 1) tight).result = .ok true ∧
      (root.isValid (.integer 1) bounded).result = .ok false ∧ ¬ Inherits [nested] := by
  intro root
  have hinner : ((root.enter loading).isValid (.integer 1) tight).result = .ok true := rfl
  have houter : (root.isValid (.integer 1) bounded).result = .ok false := rfl
  have hmem : bounded ∈ tight.supertypes := List.mem_cons_self ..
  refine ⟨rfl, hmem, hinner, houter, fun h => ?_⟩
  cases houter.symm.trans (h (root.enter loading) root _ _ _ rfl rfl (.inr hmem) hinner)

end Context

end TableFlow
