import Mathlib.Algebra.Order.Field.Basic
import Mathlib.Algebra.Order.Floor.Ring
import Mathlib.Data.Rat.Sqrt
import Mathlib.Tactic

/-!
# Floating-point values over an ordered field

The safety code of this repository branches on `NaN`, on infinities and on comparisons that
are silently false, so its numbers cannot be modelled by the members of a field alone.  A
`PyFloat α` is a finite number of `α` or one of the three special values, compared as IEEE 754
compares them: every comparison with `NaN` is false.

How an exact result is rounded is a parameter.  A `FloatFormat α` is a rounding function with
the three laws the accumulating code rests on: it is monotone and never produces `NaN`, it
leaves a representable number alone, and it leaves zero alone.  `FloatFormat.exact` rounds
nothing; overflow is a rounding to an infinity.  Results stated for every format therefore hold
both over exact arithmetic and over a machine format.

`MathLib` collects the functions of the C mathematical library, which are neither exact nor
correctly rounded, with the two documented facts that are used of them.
-/

namespace MiniatureWarehouse

-- The numerals of the source's constants are at least two; named once for all modules.
instance atLeastTwo_two : Nat.AtLeastTwo 2 := ⟨le_rfl⟩

instance atLeastTwo_three : Nat.AtLeastTwo 3 := ⟨by decide⟩

instance atLeastTwo_four : Nat.AtLeastTwo 4 := ⟨by decide⟩

instance atLeastTwo_five : Nat.AtLeastTwo 5 := ⟨by decide⟩

instance atLeastTwo_ten : Nat.AtLeastTwo 10 := ⟨by decide⟩

instance atLeastTwo_twenty : Nat.AtLeastTwo 20 := ⟨by decide⟩

instance atLeastTwo_hundred : Nat.AtLeastTwo 100 := ⟨by decide⟩

instance atLeastTwo_thousand : Nat.AtLeastTwo 1000 := ⟨by decide⟩

-- So are the bounds that the parameters of the rational examples meet.
lemma nat_one_le_one : (1 : ℕ) ≤ 1 := le_rfl

lemma rat_zero_le_zero : (0 : ℚ) ≤ 0 := le_rfl

lemma rat_one_pos : (0 : ℚ) < 1 := one_pos

lemma rat_half_pos : (0 : ℚ) < 1 / 2 := one_half_pos

lemma rat_half_le_one : (1 / 2 : ℚ) ≤ 1 := one_half_lt_one.le

lemma rat_tenth_pos : (0 : ℚ) < 1 / 10 := by norm_num

/-- A floating-point value: a number of `α`, `NaN`, or an infinity. -/
inductive PyFloat (α : Type*)
  | fin (x : α)
  | nan
  | posInf
  | negInf
  deriving DecidableEq, Repr

namespace PyFloat

variable {α : Type*}

/-- `math.isfinite`. -/
def isFinite : PyFloat α → Bool
  | fin _ => true
  | _ => false

/-- `math.isnan`. -/
def isNaN : PyFloat α → Bool
  | nan => true
  | _ => false

@[simp] lemma isFinite_fin {x : α} : (fin x).isFinite = true := rfl

@[simp] lemma isFinite_nan : (nan : PyFloat α).isFinite = false := rfl

@[simp] lemma isFinite_posInf : (posInf : PyFloat α).isFinite = false := rfl

@[simp] lemma isFinite_negInf : (negInf : PyFloat α).isFinite = false := rfl

lemma isFinite_iff {a : PyFloat α} : a.isFinite = true ↔ ∃ x, a = fin x := by
  cases a <;> simp

lemma ne_nan_of_isFinite {a : PyFloat α} (h : a.isFinite = true) : a ≠ nan := by
  rintro rfl
  exact Bool.false_ne_true h

/-! ## Comparisons -/

section Order

variable [LinearOrder α]

/-- The IEEE strict comparison: false as soon as one side is `NaN`. -/
def lt : PyFloat α → PyFloat α → Prop
  | fin x, fin y => x < y
  | fin _, posInf => True
  | negInf, fin _ => True
  | negInf, posInf => True
  | _, _ => False

/-- The IEEE weak comparison: false as soon as one side is `NaN`, so it is not reflexive. -/
def le : PyFloat α → PyFloat α → Prop
  | fin x, fin y => x ≤ y
  | fin _, posInf => True
  | negInf, fin _ => True
  | negInf, posInf => True
  | posInf, posInf => True
  | negInf, negInf => True
  | _, _ => False

instance : LT (PyFloat α) := ⟨lt⟩

instance : LE (PyFloat α) := ⟨le⟩

instance decidableLT : DecidableLT (PyFloat α) := fun a b =>
  match a, b with
  | fin x, fin y => inferInstanceAs (Decidable (x < y))
  | fin _, posInf | negInf, fin _ | negInf, posInf => .isTrue trivial
  | fin _, nan | fin _, negInf | negInf, nan | negInf, negInf => .isFalse id
  | nan, fin _ | nan, nan | nan, posInf | nan, negInf => .isFalse id
  | posInf, fin _ | posInf, nan | posInf, posInf | posInf, negInf => .isFalse id

instance decidableLE : DecidableLE (PyFloat α) := fun a b =>
  match a, b with
  | fin x, fin y => inferInstanceAs (Decidable (x ≤ y))
  | fin _, posInf | negInf, fin _ | negInf, posInf => .isTrue trivial
  | posInf, posInf | negInf, negInf => .isTrue trivial
  | fin _, nan | fin _, negInf | negInf, nan => .isFalse id
  | nan, fin _ | nan, nan | nan, posInf | nan, negInf => .isFalse id
  | posInf, fin _ | posInf, nan | posInf, negInf => .isFalse id

/-- `min(a, b)` of the language: the second argument only when it is strictly smaller. -/
def pyMin (a b : PyFloat α) : PyFloat α := if b < a then b else a

@[simp] lemma fin_lt_fin {x y : α} : (fin x : PyFloat α) < fin y ↔ x < y := Iff.rfl

@[simp] lemma fin_le_fin {x y : α} : (fin x : PyFloat α) ≤ fin y ↔ x ≤ y := Iff.rfl

@[simp] lemma fin_lt_posInf {x : α} : (fin x : PyFloat α) < posInf := trivial

@[simp] lemma fin_le_posInf {x : α} : (fin x : PyFloat α) ≤ posInf := trivial

@[simp] lemma negInf_le {a : PyFloat α} : negInf ≤ a ↔ a ≠ nan := by
  cases a <;> simp [LE.le, le]

@[simp] lemma not_fin_lt_negInf {x : α} : ¬ (fin x : PyFloat α) < negInf := id

@[simp] lemma not_fin_le_negInf {x : α} : ¬ (fin x : PyFloat α) ≤ negInf := id

@[simp] lemma not_nan_lt {a : PyFloat α} : ¬ nan < a := by
  cases a <;> exact id

@[simp] lemma not_lt_nan {a : PyFloat α} : ¬ a < nan := by
  cases a <;> exact id

@[simp] lemma not_nan_le {a : PyFloat α} : ¬ nan ≤ a := by
  cases a <;> exact id

@[simp] lemma not_le_nan {a : PyFloat α} : ¬ a ≤ nan := by
  cases a <;> exact id

@[simp] lemma not_posInf_lt {a : PyFloat α} : ¬ posInf < a := by
  cases a <;> exact id

@[simp] lemma not_posInf_le_fin {x : α} : ¬ (posInf : PyFloat α) ≤ fin x := id

/-- Away from `NaN` the two comparisons are complementary. -/
lemma le_of_not_lt {a b : PyFloat α} (ha : a ≠ nan) (hb : b ≠ nan) (h : ¬ b < a) : a ≤ b := by
  cases a <;> cases b <;> simp_all [LT.lt, LE.le, lt, le]

lemma not_lt_of_le {a b : PyFloat α} (h : a ≤ b) : ¬ b < a := by
  cases a <;> cases b <;> simp_all [LT.lt, LE.le, lt, le]

lemma ne_nan_of_le {a b : PyFloat α} (h : a ≤ b) : a ≠ nan ∧ b ≠ nan := by
  constructor <;> rintro rfl <;> simp at h

lemma le_trans {a b c : PyFloat α} (hab : a ≤ b) (hbc : b ≤ c) : a ≤ c := by
  cases a <;> cases b <;> cases c <;> simp_all [LE.le, le]
  exact hab.trans hbc

lemma lt_of_lt_of_le {a b c : PyFloat α} (hab : a < b) (hbc : b ≤ c) : a < c := by
  cases a <;> cases b <;> cases c <;> simp_all [LT.lt, LE.le, lt, le]
  exact hab.trans_le hbc

lemma le_of_lt {a b : PyFloat α} (h : a < b) : a ≤ b := by
  cases a <;> cases b <;> simp_all [LT.lt, LE.le, lt, le]
  exact h.le

/-- `min` is monotone in both arguments, as long as none of them is `NaN`. -/
lemma pyMin_mono {a a' b b' : PyFloat α} (ha : a ≤ a') (hb : b ≤ b') :
    pyMin a b ≤ pyMin a' b' := by
  unfold pyMin
  split_ifs with h h' h'
  · exact hb
  · exact le_trans (le_of_lt h) ha
  · exact le_trans (le_of_not_lt (ne_nan_of_le ha).1 (ne_nan_of_le hb).1 h) hb
  · exact ha

/-- A number is at most the smaller of two values when it is at most both. -/
lemma le_pyMin_iff {t a b : PyFloat α} (ha : a ≠ nan) (hb : b ≠ nan) :
    t ≤ pyMin a b ↔ t ≤ a ∧ t ≤ b := by
  unfold pyMin
  split_ifs with h
  · exact ⟨fun ht => ⟨le_trans ht (le_of_lt h), ht⟩, And.right⟩
  · exact ⟨fun ht => ⟨ht, le_trans ht (le_of_not_lt ha hb h)⟩, And.left⟩

/-- The clipped value never exceeds the ceiling, provided the ceiling is a number: against a
`NaN` ceiling `min` returns its first argument unclipped. -/
lemma pyMin_le_right {a b : PyFloat α} (ha : a ≠ nan) (hb : b ≠ nan) : pyMin a b ≤ b := by
  unfold pyMin
  split_ifs with h
  · cases b <;> simp_all [LE.le, le]
  · exact le_of_not_lt ha hb h

end Order

/-! ## Signs -/

section Sign

variable [Field α] [LinearOrder α] [IsStrictOrderedRing α]

/-- Negation, exact in every format. -/
def neg : PyFloat α → PyFloat α
  | fin x => fin (-x)
  | nan => nan
  | posInf => negInf
  | negInf => posInf

/-- `abs`, exact in every format. -/
def abs : PyFloat α → PyFloat α
  | fin x => fin |x|
  | nan => nan
  | posInf => posInf
  | negInf => posInf

/-- A magnitude is never below zero, `NaN` included. -/
lemma not_abs_neg (a : PyFloat α) : ¬ a.abs < fin 0 := by
  cases a <;> simp [abs]

omit [IsStrictOrderedRing α] in
@[simp] lemma isFinite_abs (a : PyFloat α) : a.abs.isFinite = a.isFinite := by
  cases a <;> rfl

lemma abs_eq_of_not_neg {a : PyFloat α} (h : ¬ a < fin 0) : a.abs = a := by
  cases a with
  | fin x => simpa [abs] using h
  | nan => rfl
  | posInf => rfl
  | negInf => exact absurd trivial h

end Sign
end PyFloat

/-! ## Formats and their arithmetic -/

/-- A floating-point format, given by how it rounds an exact result. -/
structure FloatFormat (α : Type*) [Field α] [LinearOrder α] [IsStrictOrderedRing α] where
  round : α → PyFloat α
  round_zero : round 0 = .fin 0
  round_mono : ∀ {x y}, x ≤ y → round x ≤ round y
  round_idem : ∀ {x y}, round x = .fin y → round y = .fin y

namespace FloatFormat

variable {α : Type*} [Field α] [LinearOrder α] [IsStrictOrderedRing α]

/-- Exact arithmetic as a format: nothing is rounded and nothing overflows. -/
def exact (α : Type*) [Field α] [LinearOrder α] [IsStrictOrderedRing α] : FloatFormat α where
  round x := .fin x
  round_zero := rfl
  round_mono h := h
  round_idem _ := rfl

section Bounded

/-- What is beyond a bound becomes infinite. -/
def clip (limit x : α) : PyFloat α :=
  if limit < x then .posInf else if x < -limit then .negInf else .fin x

lemma clip_zero {limit : α} (h : 0 ≤ limit) : clip limit 0 = .fin 0 := by
  have hneg : -limit ≤ 0 := neg_nonpos.mpr h
  rw [clip, if_neg (not_lt.mpr h), if_neg (not_lt.mpr hneg)]

omit [IsStrictOrderedRing α] in
lemma clip_mono (limit : α) {x y : α} (hxy : x ≤ y) : clip limit x ≤ clip limit y := by
  unfold clip
  split_ifs with hx hy hy' hx' hy hy' hy hy'
  · trivial
  · exact absurd (hx.trans_le hxy) hy
  · exact absurd (hx.trans_le hxy) hy
  · trivial
  · trivial
  · trivial
  · trivial
  · exact absurd (hxy.trans_lt hy') hx'
  · exact hxy

omit [IsStrictOrderedRing α] in
lemma clip_idem (limit : α) {x y : α} (h : clip limit x = .fin y) : clip limit y = .fin y := by
  unfold clip at h
  split_ifs at h with hbig hsmall
  obtain rfl := PyFloat.fin.inj h
  rw [clip, if_neg hbig, if_neg hsmall]

/-- Exact arithmetic within a bound, and infinities beyond it. -/
def bounded (limit : α) (h : 0 ≤ limit) : FloatFormat α where
  round := clip limit
  round_zero := clip_zero h
  round_mono := clip_mono limit
  round_idem := clip_idem limit

lemma round_bounded_of_lt {limit x : α} (h : 0 ≤ limit) (hx : limit < x) :
    (bounded limit h).round x = .posInf :=
  if_pos hx

end Bounded

/-- The values a format can hold: the special ones, and the numbers it rounds to themselves. -/
def Rep (F : FloatFormat α) (a : PyFloat α) : Prop :=
  ∀ x, a = .fin x → F.round x = .fin x

variable (F : FloatFormat α)

/-- Addition: the exact sum rounded, with the IEEE table for the special values. -/
def add : PyFloat α → PyFloat α → PyFloat α
  | .fin x, .fin y => F.round (x + y)
  | .nan, _ | _, .nan => .nan
  | .posInf, .negInf | .negInf, .posInf => .nan
  | .posInf, _ | _, .posInf => .posInf
  | .negInf, _ | _, .negInf => .negInf

/-- Subtraction, as the addition of the negated value. -/
def sub (a b : PyFloat α) : PyFloat α := F.add a b.neg

/-- Multiplication: the exact product rounded, with the IEEE table for the special values. -/
def mul : PyFloat α → PyFloat α → PyFloat α
  | .fin x, .fin y => F.round (x * y)
  | .nan, _ | _, .nan => .nan
  | .posInf, .posInf | .negInf, .negInf => .posInf
  | .posInf, .negInf | .negInf, .posInf => .negInf
  | .fin x, .posInf | .posInf, .fin x => if x = 0 then .nan else if 0 < x then .posInf else .negInf
  | .fin x, .negInf | .negInf, .fin x => if x = 0 then .nan else if 0 < x then .negInf else .posInf

/-- Division by a nonzero number: the exact quotient rounded, with the IEEE table for the
special values.  The language raises on a zero divisor; the value returned here for one is
never used. -/
def div : PyFloat α → PyFloat α → PyFloat α
  | .fin x, .fin y => F.round (x / y)
  | .nan, _ | _, .nan => .nan
  | .fin _, .posInf | .fin _, .negInf => .fin 0
  | .posInf, .fin y => if 0 < y then .posInf else .negInf
  | .negInf, .fin y => if 0 < y then .negInf else .posInf
  | .posInf, _ | .negInf, _ => .nan

lemma round_ne_nan (x : α) : F.round x ≠ .nan := by
  intro h
  have hle : F.round x ≤ F.round x := F.round_mono le_rfl
  simp [h] at hle

@[simp] lemma add_fin_fin (x y : α) : F.add (.fin x) (.fin y) = F.round (x + y) := rfl

lemma sub_self_fin (x : α) : F.sub (.fin x) (.fin x) = .fin 0 := by
  simp [sub, PyFloat.neg, F.round_zero]

lemma rep_zero : F.Rep (.fin 0) := by
  intro x hx
  obtain rfl : 0 = x := by simpa using hx
  exact F.round_zero

/-- Every result of an addition is a value of the format. -/
lemma rep_add (a b : PyFloat α) : F.Rep (F.add a b) := by
  intro x hx
  cases a <;> cases b <;> simp only [add] at hx <;> first | exact F.round_idem hx | cases hx

/-- Adding to a value that is not finite never yields a finite one. -/
lemma isFinite_add_of_not {a b : PyFloat α} (ha : a.isFinite = false) :
    (F.add a b).isFinite = false := by
  cases a <;> cases b <;> simp_all [add]

/-- Adding a number to a number gives a value that is not `NaN`, overflow included. -/
lemma add_ne_nan_of_fin_right {a : PyFloat α} (y : α) (ha : a ≠ .nan) :
    F.add a (.fin y) ≠ .nan := by
  cases a with
  | fin x => exact F.round_ne_nan _
  | nan => exact absurd rfl ha
  | posInf => simp [add]
  | negInf => simp [add]

/-- A sum of two values that are not negative is not negative. -/
lemma not_add_neg {a b : PyFloat α} (ha : ¬ a < .fin 0) (hb : ¬ b < .fin 0) :
    ¬ F.add a b < .fin 0 := by
  cases a with
  | fin x =>
    cases b with
    | fin y =>
      have hx : 0 ≤ x := by simpa using ha
      have hy : 0 ≤ y := by simpa using hb
      have h : F.round 0 ≤ F.round (x + y) := F.round_mono (by linarith)
      rw [F.round_zero] at h
      exact PyFloat.not_lt_of_le h
    | nan => exact PyFloat.not_nan_lt
    | posInf => exact PyFloat.not_posInf_lt
    | negInf => exact absurd trivial hb
  | nan => cases b <;> exact PyFloat.not_nan_lt
  | posInf => cases b <;> first | exact PyFloat.not_posInf_lt | exact PyFloat.not_nan_lt
  | negInf => exact absurd trivial ha

/-! ### Accumulation past a threshold

A reading counts as past a threshold when it is not finite or strictly above it: that is how
the code reads its accumulators, an unusable reading being treated as an exceeded one. -/

/-- The reading `a` is past the threshold `e`: above it, or not a usable reading at all. -/
def Past (e a : PyFloat α) : Prop := a.isFinite = false ∨ e < a

/-- **Accumulation is a latch.**  Adding to a representable reading an increment that is not
negative never brings it back to the threshold, whatever the rounding does and even when the
sum overflows or the increment is not a number. -/
lemma Past.add {e a d : PyFloat α} (h : Past e a) (ha : F.Rep a) (hd : ¬ d < .fin 0) :
    Past e (F.add a d) := by
  rcases h with h | h
  · exact .inl (F.isFinite_add_of_not h)
  · cases a with
    | fin x =>
      cases d with
      | fin y =>
        have hy : 0 ≤ y := by simpa using hd
        have hx : F.round x ≤ F.round (x + y) := F.round_mono (by linarith)
        rw [ha x rfl] at hx
        exact .inr (PyFloat.lt_of_lt_of_le h hx)
      | nan => exact .inl rfl
      | posInf => exact .inl rfl
      | negInf => exact absurd trivial hd
    | nan => exact absurd h PyFloat.not_lt_nan
    | posInf => exact .inl (F.isFinite_add_of_not rfl)
    | negInf => exact .inl (F.isFinite_add_of_not rfl)

end FloatFormat

/-! ## The mathematical library -/

/-- The functions of the C mathematical library the code calls on finite arguments.  `hypot`
is the Euclidean norm, so it never returns a negative number. -/
structure MathLib (α : Type*) [Field α] [LinearOrder α] [IsStrictOrderedRing α] where
  hypot : PyFloat α → PyFloat α → PyFloat α
  sin : α → PyFloat α
  cos : α → PyFloat α
  atan2 : PyFloat α → PyFloat α → PyFloat α
  hypot_nonneg : ∀ a b, ¬ hypot a b < .fin 0

/-- A rational library to evaluate models with: the hypotenuse is exact where it is rational,
the angle functions are first-order and exact at the heading zero. -/
def MathLib.rational : MathLib ℚ where
  hypot
    | .fin x, .fin y => .fin (Rat.sqrt (x * x + y * y))
    | .posInf, _ | .negInf, _ | _, .posInf | _, .negInf => .posInf
    | _, _ => .nan
  sin x := .fin x
  cos _ := .fin 1
  atan2
    | .fin s, .fin c => .fin (s / c)
    | _, _ => .nan
  hypot_nonneg a b := by
    cases a <;> cases b <;> simp [Rat.sqrt_nonneg]

end MiniatureWarehouse
