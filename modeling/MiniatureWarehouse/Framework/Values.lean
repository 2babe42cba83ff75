import MiniatureWarehouse.Framework.Dict
import MiniatureWarehouse.Framework.Floats

/-!
# Values and exceptions of the language

What crosses the boundaries of the program (a topic, a tool call, a file on disk) is JSON, and
the code inspects it with `isinstance` before it trusts it.  A `PyVal α` is such a decoded
value; its floats are the `PyFloat`s of the arithmetic framework, because the decoder accepts
the bare tokens `NaN` and `Infinity`.

The decoder itself is a parameter of the models: `JsonScan α` is any function from texts to raw
trees that may fail with the two exceptions `json.loads` is documented to raise, a `ValueError`
for text that is not JSON and a `RecursionError` for text nested too deeply.  A raw tree keeps
every name/value pair an object was written with; `loads` then lets the last of several equal
names win, as the default object hook does.
-/

namespace MiniatureWarehouse

/-- The exception classes the modelled code raises or catches. -/
inductive PyErr
  | valueError
  | typeError
  | keyError
  | attributeError
  | overflowError
  | recursionError
  | osError
  | runtimeError
  | zeroDivisionError
  | notImplementedError
  deriving DecidableEq, Repr

/-- `f"{n:03d}"`: a number written with at least three digits. -/
def format03d (n : ℕ) : String :=
  let digits := toString n
  "".pushn '0' (3 - digits.length) ++ digits

lemma toList_pushn (c : Char) (k : ℕ) : ("".pushn c k).toList = List.replicate k c := by
  rw [String.pushn_eq_repeat_push]
  induction k with
  | zero => rfl
  | succ k ih => rw [Nat.repeat, String.toList_push, ih, List.replicate_succ']

/-- The number is read back from its digits: leading zeros do not count. -/
lemma ofDigitChars_format03d (n : ℕ) : Nat.ofDigitChars 10 (format03d n).toList 0 = n := by
  have hdigits : (toString n).toList = Nat.toDigits 10 n := Nat.toList_repr
  unfold format03d
  rw [String.toList_append, toList_pushn, hdigits, Nat.ofDigitChars_append,
    Nat.ofDigitChars_replicate_zero, Nat.mul_zero, Nat.ofDigitChars_ten_toDigits]

lemma format03d_injective : Function.Injective format03d := by
  intro m n h
  rw [← ofDigitChars_format03d m, h, ofDigitChars_format03d]

/-- Peeling the last computation off a fallible one that succeeded. -/
lemma exceptMap_eq_ok {ε β γ : Type*} {x : Except ε β} {f : β → γ} {c : γ} :
    x.map f = .ok c ↔ ∃ b, x = .ok b ∧ f b = c := by
  cases x <;> simp [Except.map]

lemma exceptMap_eq_error {ε β γ : Type*} {x : Except ε β} {f : β → γ} {e : ε} :
    x.map f = .error e ↔ x = .error e := by
  cases x <;> simp [Except.map]

/-- A sequence of two fallible computations succeeds when both do. -/
lemma exceptBind_eq_ok {ε β γ : Type*} {x : Except ε β} {f : β → Except ε γ} {c : γ} :
    x.bind f = .ok c ↔ ∃ b, x = .ok b ∧ f b = .ok c := by
  cases x <;> simp [Except.bind]

/-- A fallible function applied along a list relates the elements one by one. -/
lemma forall₂_of_mapM_eq_ok {ε β γ : Type*} {f : β → Except ε γ} {xs : List β} {ys : List γ}
    (h : xs.mapM f = .ok ys) : List.Forall₂ (fun x y => f x = .ok y) xs ys := by
  induction xs generalizing ys with
  | nil =>
    obtain rfl : [] = ys := Except.ok.inj h
    exact .nil
  | cons x xs ih =>
    rw [List.mapM_cons] at h
    obtain ⟨y, hy, h⟩ := exceptBind_eq_ok.mp h
    obtain ⟨ys', hys, h⟩ := exceptBind_eq_ok.mp h
    obtain rfl : y :: ys' = ys := Except.ok.inj h
    exact .cons hy (ih hys)

/-- A fallible function maps a list when it maps every element. -/
lemma exists_mapM_eq_ok {ε β γ : Type*} {f : β → Except ε γ} {xs : List β} :
    (∃ ys, xs.mapM f = .ok ys) ↔ ∀ x ∈ xs, ∃ y, f x = .ok y := by
  induction xs with
  | nil => exact ⟨fun _ _ hx => absurd hx List.not_mem_nil, fun _ => ⟨[], rfl⟩⟩
  | cons x xs ih =>
    rw [List.forall_mem_cons, ← ih, List.mapM_cons]
    constructor
    · rintro ⟨ys, h⟩
      obtain ⟨y, hy, h⟩ := exceptBind_eq_ok.mp h
      obtain ⟨ys', hys, -⟩ := exceptBind_eq_ok.mp h
      exact ⟨⟨y, hy⟩, ⟨ys', hys⟩⟩
    · rintro ⟨⟨y, hy⟩, ⟨ys, hys⟩⟩
      exact ⟨y :: ys, exceptBind_eq_ok.mpr ⟨y, hy, exceptBind_eq_ok.mpr ⟨ys, hys, rfl⟩⟩⟩

/-- A loop whose body fails or not whatever has been accumulated succeeds when its body does for
every element. -/
lemma exists_foldlM_eq_ok {ε : Type*} {β γ : Type*} {f : β → γ → Except ε β} {P : γ → Prop}
    (h : ∀ b x, (∃ b', f b x = .ok b') ↔ P x) {xs : List γ} {b : β} :
    (∃ b', xs.foldlM f b = .ok b') ↔ ∀ x ∈ xs, P x := by
  induction xs generalizing b with
  | nil => exact iff_of_true ⟨b, rfl⟩ (by simp)
  | cons x xs ih =>
    rw [List.forall_mem_cons, ← h b x]
    constructor
    · rintro ⟨b', hb'⟩
      obtain ⟨c, hc, hrest⟩ := exceptBind_eq_ok.mp hb'
      exact ⟨⟨c, hc⟩, ih.mp ⟨b', hrest⟩⟩
    · rintro ⟨⟨c, hc⟩, hrest⟩
      obtain ⟨b', hb'⟩ := ih.mpr hrest
      exact ⟨b', exceptBind_eq_ok.mpr ⟨c, hc, hb'⟩⟩

/-- The elements of a mapped list are the images. -/
lemma mem_of_mapM_eq_ok {ε β γ : Type*} {f : β → Except ε γ} {xs : List β} {ys : List γ}
    (h : xs.mapM f = .ok ys) {y : γ} : y ∈ ys ↔ ∃ x ∈ xs, f x = .ok y := by
  have hall := forall₂_of_mapM_eq_ok h
  clear h
  induction hall with
  | nil => simp
  | @cons x y' xs ys hx _ ih =>
    rw [List.mem_cons]
    constructor
    · rintro (rfl | hy)
      · exact ⟨x, List.mem_cons_self, hx⟩
      · obtain ⟨x', hmem, hx'⟩ := ih.mp hy
        exact ⟨x', List.mem_cons_of_mem x hmem, hx'⟩
    · rintro ⟨x', hmem, hx'⟩
      rcases List.mem_cons.mp hmem with rfl | hmem
      · rw [hx] at hx'
        exact .inl (Except.ok.inj hx').symm
      · exact .inr (ih.mpr ⟨x', hmem, hx'⟩)

/-- A decoded value; `null` is the language's `None`. -/
inductive PyVal (α : Type*)
  | null
  | bool (b : Bool)
  | int (i : ℤ)
  | float (x : PyFloat α)
  | str (s : String)
  | list (xs : List (PyVal α))
  | dict (es : List (String × PyVal α))
  deriving Repr

namespace PyVal

variable {α : Type*}

/-- `v.get(key)` of a mapping, and nothing for any other value. -/
def get? : PyVal α → String → Option (PyVal α)
  | .dict es, k => Dict.find es k
  | _, _ => none

/-- A mapping written as a literal or built from pairs: the last of several equal names wins,
at the place of the first. -/
def ofPairs (es : List (String × PyVal α)) : PyVal α :=
  .dict (es.foldl (fun d e => Dict.assign d e.1 e.2) [])

mutual

/-- A raw tree with every object reduced to one entry for each name. -/
def collapse : PyVal α → PyVal α
  | .list xs => .list (collapseList xs)
  | .dict es => ofPairs (collapseEntries es)
  | v => v

/-- `collapse` on the elements of an array. -/
def collapseList : List (PyVal α) → List (PyVal α)
  | [] => []
  | v :: vs => collapse v :: collapseList vs

/-- `collapse` on the values of an object, its names untouched. -/
def collapseEntries : List (String × PyVal α) → List (String × PyVal α)
  | [] => []
  | (k, v) :: es => (k, collapse v) :: collapseEntries es

/-- Does some object of a raw tree repeat a name? -/
def repeatsName : PyVal α → Bool
  | .list xs => repeatsNameList xs
  | .dict es => repeatsNameEntries es || !decide (es.map Prod.fst).Nodup
  | _ => false

/-- `repeatsName` on the elements of an array. -/
def repeatsNameList : List (PyVal α) → Bool
  | [] => false
  | v :: vs => repeatsName v || repeatsNameList vs

/-- `repeatsName` on the values of an object. -/
def repeatsNameEntries : List (String × PyVal α) → Bool
  | [] => false
  | (_, v) :: es => repeatsName v || repeatsNameEntries es

end

end PyVal

/-! ## Numbers -/

/-- A number of the language: an unbounded integer or a float. -/
inductive PyNum (α : Type*)
  | int (i : ℤ)
  | float (x : PyFloat α)

/-- The number a value is, if it is one; a boolean is an integer. -/
def PyVal.toNum? {α : Type*} : PyVal α → Option (PyNum α)
  | .bool b => some (.int b.toInt)
  | .int i => some (.int i)
  | .float x => some (.float x)
  | _ => none

namespace PyNum

variable {α : Type*} [Field α] [LinearOrder α]

/-- The value of a number: integers and floats compare by their exact values. -/
def value : PyNum α → PyFloat α
  | int i => .fin (i : α)
  | float x => x

/-- `a < b`. -/
def lt (a b : PyNum α) : Bool := decide (a.value < b.value)

/-- `a <= b`. -/
def le (a b : PyNum α) : Bool := decide (a.value ≤ b.value)

/-- `a - n` for an integer `n`, converted to a float first when `a` is one. -/
def subInt [IsStrictOrderedRing α] (F : FloatFormat α) : PyNum α → ℤ → PyNum α
  | int i, n => .int (i - n)
  | float x, n => .float (F.sub x (F.round n))

variable [IsStrictOrderedRing α]

@[simp] lemma lt_int_int (i j : ℤ) : (int i : PyNum α).lt (int j) = decide (i < j) := by
  simp [lt, value]

@[simp] lemma le_int_int (i j : ℤ) : (int i : PyNum α).le (int j) = decide (i ≤ j) := by
  simp [le, value]

end PyNum

/-- `float(v)` of a number; an integer beyond the range of the format overflows. -/
def PyVal.toFloat {α : Type*} [Field α] [LinearOrder α] [IsStrictOrderedRing α]
    (F : FloatFormat α) : PyVal α → Except PyErr (PyFloat α)
  | .float x => .ok x
  | .int i => if (F.round i).isFinite then .ok (F.round i) else .error .overflowError
  | .bool b => .ok (.fin (if b then 1 else 0))
  | _ => .error .typeError

/-- `a / b`, which raises on a zero divisor. -/
def pyDiv {α : Type*} [Field α] [LinearOrder α] [IsStrictOrderedRing α] (F : FloatFormat α)
    (a b : PyFloat α) : Except PyErr (PyFloat α) :=
  if b = .fin 0 then .error .zeroDivisionError else .ok (F.div a b)

lemma pyDiv_of_ne {α : Type*} [Field α] [LinearOrder α] [IsStrictOrderedRing α]
    {F : FloatFormat α} {a b : PyFloat α} (h : b ≠ .fin 0) : pyDiv F a b = .ok (F.div a b) :=
  if_neg h

/-- `math.sin` and `math.cos` on any float: an infinite argument raises. -/
def trig {α : Type*} (f : α → PyFloat α) : PyFloat α → Except PyErr (PyFloat α)
  | .fin x => .ok (f x)
  | .nan => .ok .nan
  | .posInf | .negInf => .error .valueError

/-- The two ways the JSON decoder fails. -/
inductive LoadsErr
  | valueError
  | recursionError
  deriving DecidableEq, Repr

/-- The exception class a decoder failure is raised as. -/
def LoadsErr.toPyErr : LoadsErr → PyErr
  | valueError => .valueError
  | recursionError => .recursionError

/-- The scanner of the JSON decoder, from a text to its raw tree. -/
abbrev JsonScan (α : Type*) := String → Except LoadsErr (PyVal α)

/-- `json.loads(s)`. -/
def JsonScan.loads {α : Type*} (scan : JsonScan α) (s : String) : Except LoadsErr (PyVal α) :=
  (scan s).map PyVal.collapse

/-- `json.loads(s, object_pairs_hook=...)` with a hook that raises a `ValueError` on a repeated
name instead of letting the last one win. -/
def JsonScan.loadsUnique {α : Type*} (scan : JsonScan α) (s : String) :
    Except LoadsErr (PyVal α) :=
  match scan s with
  | .error e => .error e
  | .ok v => if v.repeatsName then .error .valueError else .ok v

end MiniatureWarehouse
