import TableFlow.Proofs.Decimal.Value
import TableFlow.Evaluation.Operator

namespace TableFlow

namespace Value

variable {a b c x y z : Value} {m n : Int64} {p : Value → Prop}

-- An integer or a finite decimal.
def IsFiniteNumber (v : Value) : Prop := ∃ d, v.number? = some d ∧ d.isFinite = true

-- What `==`, `<=` and `in` find.
def Equals (a b : Value) : Prop := BinaryOp.equal.apply a b = .ok (.boolean true)

def AtMost (a b : Value) : Prop := BinaryOp.lessEqual.apply a b = .ok (.boolean true)

def IsAmong (a : Value) (items : List Value) : Prop :=
  BinaryOp.isIn.apply a (.collection items) = .ok (.boolean true)

theorem test_iff {symbol : String} {accepts : Ordering → Bool} :
    Operator.test symbol accepts a b = .ok (.boolean true) ↔
      ∃ order, Operator.compare? a b = some order ∧ accepts order = true := by
  rw [Operator.test]
  cases Operator.compare? a b <;> simp [Operator.mismatch]

theorem equals_iff_compare? : a.Equals b ↔ Operator.compare? a b = some .eq := by
  rw [Equals, BinaryOp.apply, test_iff]
  constructor
  · rintro ⟨order, horder, haccepts⟩
    rw [horder, Ordering.isEq_iff_eq_eq.mp haccepts]
  · exact fun h => ⟨_, h, rfl⟩

-- The number that a value denotes as a decimal.
def rational (v : Value) : ℚ := (v.number?.map Decimal.value).getD 0

-- If both values are integers, these are related.
def OnIntegers (relation : Int → Int → Prop) (a b : Value) : Prop :=
  ∀ m n, a = .integer m → b = .integer n → relation m.toInt n.toInt

theorem onIntegers_integers {relation : Int → Int → Prop} :
    OnIntegers relation (integer m) (integer n) ↔ relation m.toInt n.toInt := by
  constructor
  · exact fun h => h m n rfl rfl
  · intro h m' n' hm hn
    cases hm
    cases hn
    exact h

theorem rational_mono (h : m.toInt ≤ n.toInt) : (integer m).rational ≤ (integer n).rational :=
  Decimal.value_ofInt64_mono h

-- Two numbers that are not both integers are compared as decimals.
theorem compare?_eq_rational (ha : a.IsFiniteNumber) (hb : b.IsFiniteNumber)
    (hkinds : ¬ ∃ m n, a = .integer m ∧ b = .integer n) :
    Operator.compare? a b = some (Ord.compare a.rational b.rational) := by
  obtain ⟨d, hd, hfinite⟩ := ha
  obtain ⟨d', hd', hfinite'⟩ := hb
  have hdecimals := Decimal.compare?_eq_value hfinite hfinite'
  cases a <;> cases hd <;> cases b <;> cases hd'
  · exact absurd ⟨_, _, rfl, rfl⟩ hkinds
  all_goals exact hdecimals

-- A test of the order holds of the numbers as decimals and, if both are integers, of these as well.
-- For integers the latter implies the former, as `hmono` says.
theorem test_number_iff {symbol : String} {accepts : Ordering → Bool} {onInt : Int → Int → Prop}
    {onRat : ℚ → ℚ → Prop} (hint : ∀ i j, accepts (Ord.compare i j) = true ↔ onInt i j)
    (hrat : ∀ q r, accepts (Ord.compare q r) = true ↔ onRat q r)
    (hmono : ∀ m n : Int64, onInt m.toInt n.toInt →
      onRat (integer m).rational (integer n).rational)
    (ha : a.IsFiniteNumber) (hb : b.IsFiniteNumber) :
    Operator.test symbol accepts a b = .ok (.boolean true) ↔
      onRat a.rational b.rational ∧ OnIntegers onInt a b := by
  rw [test_iff]
  by_cases hkinds : ∃ m n, a = .integer m ∧ b = .integer n
  · obtain ⟨m, n, rfl, rfl⟩ := hkinds
    rw [onIntegers_integers, ← hint]
    constructor
    · rintro ⟨order, horder, haccepts⟩
      cases horder
      exact ⟨hmono m n ((hint _ _).mp haccepts), haccepts⟩
    · exact fun h => ⟨_, rfl, h.2⟩
  · rw [compare?_eq_rational ha hb hkinds, ← hrat]
    constructor
    · rintro ⟨order, horder, haccepts⟩
      cases horder
      exact ⟨haccepts, fun m n hm hn => absurd ⟨m, n, hm, hn⟩ hkinds⟩
    · exact fun h => ⟨_, rfl, h.1⟩

theorem atMost_iff (ha : a.IsFiniteNumber) (hb : b.IsFiniteNumber) :
    a.AtMost b ↔ a.rational ≤ b.rational ∧ OnIntegers (· ≤ ·) a b :=
  test_number_iff (fun _ _ => Ordering.isLE_iff_ne_gt.trans compare_le_iff_le)
    (fun _ _ => Ordering.isLE_iff_ne_gt.trans compare_le_iff_le) (fun _ _ => rational_mono) ha hb

theorem equals_iff (ha : a.IsFiniteNumber) (hb : b.IsFiniteNumber) :
    a.Equals b ↔ a.rational = b.rational ∧ OnIntegers (· = ·) a b :=
  test_number_iff (fun _ _ => Ordering.isEq_iff_eq_eq.trans compare_eq_iff_eq)
    (fun _ _ => Ordering.isEq_iff_eq_eq.trans compare_eq_iff_eq)
    (fun _ _ h => by rw [Int64.toInt_inj.mp h]) ha hb

theorem equals_iff_atMost (ha : a.IsFiniteNumber) (hb : b.IsFiniteNumber) :
    a.Equals b ↔ a.AtMost b ∧ b.AtMost a := by
  rw [equals_iff ha hb, atMost_iff ha hb, atMost_iff hb ha]
  constructor
  · rintro ⟨hrational, hintegers⟩
    exact ⟨⟨hrational.le, fun m n hm hn => (hintegers m n hm hn).le⟩,
      ⟨hrational.ge, fun n m hn hm => (hintegers m n hm hn).ge⟩⟩
  · rintro ⟨⟨hle, hintegers⟩, ⟨hge, hintegers'⟩⟩
    exact ⟨hle.antisymm hge,
      fun m n hm hn => (hintegers m n hm hn).antisymm (hintegers' n m hn hm)⟩

theorem atMost_total (ha : a.IsFiniteNumber) (hb : b.IsFiniteNumber) :
    a.AtMost b ∨ b.AtMost a := by
  rw [atMost_iff ha hb, atMost_iff hb ha]
  by_cases hkinds : ∃ m n, a = .integer m ∧ b = .integer n
  · obtain ⟨m, n, rfl, rfl⟩ := hkinds
    rw [onIntegers_integers, onIntegers_integers]
    rcases le_total m.toInt n.toInt with h | h
    · exact .inl ⟨rational_mono h, h⟩
    · exact .inr ⟨rational_mono h, h⟩
  · rcases le_total a.rational b.rational with h | h
    · exact .inl ⟨h, fun m n hm hn => absurd ⟨m, n, hm, hn⟩ hkinds⟩
    · exact .inr ⟨h, fun n m hn hm => absurd ⟨m, n, hm, hn⟩ hkinds⟩

theorem isAmong_iff (ha : a.IsFiniteNumber) {items : List Value} :
    a.IsAmong items ↔ ∃ item ∈ items, a.Equals item := by
  have hsearchable : Operator.isSearchable a = true := by
    obtain ⟨d, hd, -⟩ := ha
    cases a <;> cases hd <;> rfl
  rw [IsAmong, BinaryOp.apply, if_pos hsearchable]
  simp [equals_iff_compare?]

-- On the values of a set `==` is an equivalence, `<=` is a total preorder that goes with it, and `in`
-- finds a value in place of one that it is equal to.
structure OrdersConsistently (p : Value → Prop) : Prop where
  equals_refl : ∀ a, p a → a.Equals a
  equals_symm : ∀ a b, p a → p b → a.Equals b → b.Equals a
  equals_trans : ∀ a b c, p a → p b → p c → a.Equals b → b.Equals c → a.Equals c
  atMost_total : ∀ a b, p a → p b → a.AtMost b ∨ b.AtMost a
  atMost_trans : ∀ a b c, p a → p b → p c → a.AtMost b → b.AtMost c → a.AtMost c
  equals_iff_atMost : ∀ a b, p a → p b → (a.Equals b ↔ a.AtMost b ∧ b.AtMost a)
  isAmong_symm : ∀ x y z, p x → p y → p z → x.IsAmong [y] → y.Equals z → z.IsAmong [x]

-- No decimal of a set is equal to two of its integers.
def SeparatesIntegers (p : Value → Prop) : Prop :=
  ∀ m n d, p (.integer m) → p (.integer n) → p (.decimal d) →
    (integer m).Equals (.decimal d) → (integer n).Equals (.decimal d) → m = n

-- Between two integers out of order there can only be a decimal to which both are rounded.
theorem SeparatesIntegers.atMost_trans (h : SeparatesIntegers p)
    (hp : ∀ v, p v → v.IsFiniteNumber) (ha : p a) (hb : p b) (hc : p c) (hab : a.AtMost b)
    (hbc : b.AtMost c) : a.AtMost c := by
  rw [atMost_iff (hp a ha) (hp b hb)] at hab
  rw [atMost_iff (hp b hb) (hp c hc)] at hbc
  rw [atMost_iff (hp a ha) (hp c hc)]
  refine ⟨hab.1.trans hbc.1, ?_⟩
  rintro m n rfl rfl
  by_contra hlt
  have hrounded := rational_mono (not_le.mp hlt).le
  obtain ⟨d, hd, hfinite⟩ := hp b hb
  cases b with
  | integer k => exact hlt ((hab.2 m k rfl rfl).trans (hbc.2 k n rfl rfl))
  | decimal d' =>
      have hequals (i : Int64) (hi : p (.integer i))
          (hrational : (integer i).rational = (decimal d').rational) :
          (integer i).Equals (.decimal d') :=
        (equals_iff (hp _ hi) (hp _ hb)).mpr ⟨hrational, fun _ _ _ hn => by cases hn⟩
      have hm := hequals m ha (hab.1.antisymm (hbc.1.trans hrounded))
      have hn := hequals n hc ((hrounded.trans hab.1).antisymm hbc.1)
      exact hlt (by rw [h m n d' ha hc hb hm hn])
  | _ => cases hd

theorem SeparatesIntegers.ordersConsistently (h : SeparatesIntegers p)
    (hp : ∀ v, p v → v.IsFiniteNumber) : OrdersConsistently p := by
  have hrefl (a : Value) (ha : p a) : a.Equals a :=
    (equals_iff (hp a ha) (hp a ha)).mpr ⟨rfl, fun m n hm hn => by cases hm; cases hn; rfl⟩
  have hsymm (a b : Value) (ha : p a) (hb : p b) (hab : a.Equals b) : b.Equals a :=
    (equals_iff_atMost (hp b hb) (hp a ha)).mpr
      ((equals_iff_atMost (hp a ha) (hp b hb)).mp hab).symm
  have htrans (a b c : Value) (ha : p a) (hb : p b) (hc : p c) (hab : a.Equals b)
      (hbc : b.Equals c) : a.Equals c := by
    rw [equals_iff_atMost (hp a ha) (hp b hb)] at hab
    rw [equals_iff_atMost (hp b hb) (hp c hc)] at hbc
    exact (equals_iff_atMost (hp a ha) (hp c hc)).mpr
      ⟨h.atMost_trans hp ha hb hc hab.1 hbc.1, h.atMost_trans hp hc hb ha hbc.2 hab.2⟩
  exact
    { equals_refl := hrefl
      equals_symm := hsymm
      equals_trans := htrans
      atMost_total := fun a b ha hb => atMost_total (hp a ha) (hp b hb)
      atMost_trans := fun a b c ha hb hc => h.atMost_trans hp ha hb hc
      equals_iff_atMost := fun a b ha hb => equals_iff_atMost (hp a ha) (hp b hb)
      isAmong_symm := fun x y z hx hy hz hamong hyz => by
        obtain ⟨item, hitem, hxy⟩ := (isAmong_iff (hp x hx)).mp hamong
        obtain rfl := List.mem_singleton.mp hitem
        exact (isAmong_iff (hp z hz)).mpr
          ⟨x, List.mem_singleton_self x, hsymm x z hx hz (htrans x item z hx hy hz hxy hyz)⟩ }

theorem isFiniteNumber_integer (n : Int64) : (integer n).IsFiniteNumber :=
  ⟨_, rfl, Decimal.ofInt64_isFinite n⟩

-- Numbers are ordered consistently exactly if no decimal among them is equal to two integers.
theorem ordersConsistently_iff (hp : ∀ v, p v → v.IsFiniteNumber) :
    OrdersConsistently p ↔ SeparatesIntegers p := by
  constructor
  · intro h m n d hm hn hd hmd hnd
    have hdn := h.equals_symm _ _ hn hd hnd
    have hmn := (equals_iff (hp _ hm) (hp _ hn)).mp (h.equals_trans _ _ _ hm hd hn hmd hdn)
    exact Int64.toInt_inj.mp (onIntegers_integers.mp hmn.2)
  · exact fun h => h.ordersConsistently hp

-- The integer up to which nothing is rounded, the next one, and the decimal of both.
def boundary : Value := .integer 9007199254740992

def beyond : Value := .integer 9007199254740993

def shared : Value := .decimal (.ofInt64 9007199254740992)

theorem isFiniteNumber_shared : shared.IsFiniteNumber := ⟨_, rfl, Decimal.ofInt64_isFinite _⟩

theorem equals_shared (h : Decimal.ofInt64 n = .ofInt64 9007199254740992) :
    (integer n).Equals shared :=
  (equals_iff (isFiniteNumber_integer n) isFiniteNumber_shared).mpr
    ⟨congrArg Decimal.value h, fun _ _ _ hshared => by cases hshared⟩

theorem ordersConsistently_iff_shared :
    OrdersConsistently (fun v => v = beyond ∨ v = shared) ∧
      ¬ OrdersConsistently (fun v => v = beyond ∨ v = boundary ∨ v = shared) := by
  constructor
  · refine (ordersConsistently_iff ?_).mpr ?_
    · rintro v (rfl | rfl)
      · exact isFiniteNumber_integer _
      · exact isFiniteNumber_shared
    · rintro m n d (hm | hm) (hn | hn) - - -
      · cases hm
        cases hn
        rfl
      · cases hn
      · cases hm
      · cases hm
  · rw [ordersConsistently_iff]
    · intro h
      have hequal : (9007199254740993 : Int64) = 9007199254740992 :=
        h _ _ _ (.inl rfl) (.inr (.inl rfl)) (.inr (.inr rfl)) (equals_shared (by decide))
          (equals_shared rfl)
      exact absurd hequal (by decide)
    · rintro v (rfl | rfl | rfl)
      · exact isFiniteNumber_integer _
      · exact isFiniteNumber_integer _
      · exact isFiniteNumber_shared

-- Both integers are equal to the decimal, and not to each other.
theorem not_ordersConsistently : ¬ OrdersConsistently IsFiniteNumber := by
  intro h
  have hbeyond : beyond.Equals shared := equals_shared (by decide)
  have hboundary : boundary.Equals shared := equals_shared rfl
  have hequals : beyond.Equals boundary :=
    h.equals_trans beyond shared boundary (isFiniteNumber_integer _) isFiniteNumber_shared
      (isFiniteNumber_integer _) hbeyond
      (h.equals_symm boundary shared (isFiniteNumber_integer _) isFiniteNumber_shared hboundary)
  have hcompare := equals_iff_compare?.mp hequals
  exact absurd hcompare (by decide)

end Value

end TableFlow
