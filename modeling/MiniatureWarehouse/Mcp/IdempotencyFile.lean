import MiniatureWarehouse.Framework.CodePointJson
import MiniatureWarehouse.WebBridge.CrashRecovery
import Mathlib.Algebra.Order.Field.Rat

/-!
# The idempotency file, byte for byte

The keys that were consumed are kept in one file, and every call reads all of it.  A file that is
missing or is not JSON, and JSON that is not an object, count as an empty store, so that damage from
outside costs no more than the memory of replays.

Other damage is not caught.  Bytes that are not UTF-8 and values that are nested too deeply or have
too many digits raise out of `_load`.  An object gets further whatever its values are, and the first
of them that is no number raises where a fresh key evicts the old ones.  `firstSeenOnce_iff` names
the files and the calls on which two calls in a row do return, and at most one of them with "first
seen".
-/

namespace MiniatureWarehouse

open WebBridge (readText encode encode_eq readText_utf8Encode)

/-- `FileIdempotencyStore`, with the interpreter that runs it. -/
structure FileIdempotencyStore (α : Type*) where
  interpreter : Interpreter
  floats : Json.FloatText α
  windowGens : ℤ

namespace FileIdempotencyStore

section Store

variable {α : Type*}

/-- `_load`; no bytes stand for a file that does not exist. -/
def load (S : FileIdempotencyStore α) :
    Option ByteArray → Except PyErr (Dict PyStr (Decoded α))
  | none => .ok .empty
  | some bytes =>
    match readText bytes with
    | .error e => .error e
    | .ok text =>
      match S.interpreter.loads S.floats text with
      | .error .notJson => .ok .empty
      | .error (.raised e) => .error e
      | .ok (.dict es) => .ok (Decoded.ofPairs es)
      | .ok _ => .ok .empty

variable [Field α] [LinearOrder α]

/-- `g >= cutoff` for a remembered value that is a number. -/
def keptAt (cutoff : ℤ) (g : Decoded α) : Bool :=
  match g.toNum? with
  | some g => (PyNum.int cutoff).le g
  | none => false

/-- What is left once a fresh key is recorded and the old ones are evicted. -/
def recorded (S : FileIdempotencyStore α) (consumed : Dict PyStr (Decoded α)) (key : PyStr)
    (gen : ℤ) : Dict PyStr (Decoded α) :=
  (consumed.set key (.int gen)).filter fun _ g => keptAt (gen - S.windowGens) g

/-- `check_and_add`: the file afterwards, and whether the key was first seen. -/
def checkAndAdd (S : FileIdempotencyStore α) (file : Option ByteArray) (key : PyStr) (gen : ℤ) :
    Option ByteArray × Except PyErr Bool :=
  match S.load file with
  | .error e => (file, .error e)
  | .ok consumed =>
    if consumed.contains key then (file, .ok false)
    -- the new entry is an integer, so that only a value of the file can fail to compare
    else if consumed.entries.any fun e => e.2.toNum?.isNone then (file, .error .typeError)
    else
      match S.interpreter.dumps S.floats (.dict (S.recorded consumed key gen).entries) with
      | .error e => (file, .error e)
      | .ok text => (some (encode text), .ok true)

/-- Two calls in a row return, and at most one of them with "first seen". -/
def FirstSeenOnce (S : FileIdempotencyStore α) (file : Option ByteArray) (key : PyStr) (gen : ℤ) :
    Prop :=
  ∃ first second, (S.checkAndAdd file key gen).2 = .ok first ∧
    (S.checkAndAdd (S.checkAndAdd file key gen).1 key gen).2 = .ok second ∧
      ¬ (first = true ∧ second = true)

/-- A key can be recorded among those consumed: what they are remembered with are numbers, the
window reaches back, and both the generation and the key come back as they were written. -/
structure Recordable (S : FileIdempotencyStore α) (consumed : Dict PyStr (Decoded α))
    (key : PyStr) (gen : ℤ) : Prop where
  numbers : ∀ e ∈ consumed.entries, e.2.toNum?.isSome
  window : 0 ≤ S.windowGens
  short : S.interpreter.short gen = true
  joined : key.Joined

/-! ## What is in the file -/

variable {S : FileIdempotencyStore α} {file : Option ByteArray} {consumed : Dict PyStr (Decoded α)}
  {key : PyStr} {gen : ℤ}

omit [Field α] [LinearOrder α] in
/-- Whatever the file holds, its names are joined and its integers can be written again. -/
lemma load_sound (h : S.load file = .ok consumed) :
    ∀ e ∈ consumed.entries, e.1.Joined ∧ S.interpreter.converts e.2 = true := by
  have hempty : ∀ e ∈ (Dict.empty : Dict PyStr (Decoded α)).entries,
      e.1.Joined ∧ S.interpreter.converts e.2 = true := fun e he => absurd he List.not_mem_nil
  unfold load at h
  split at h
  · obtain rfl := Except.ok.inj h
    exact hempty
  · split at h
    · cases h
    · split at h
      · obtain rfl := Except.ok.inj h
        exact hempty
      · cases h
      · rename_i es hloads
        obtain ⟨d, rfl, hd⟩ := Interpreter.loads_dict_sound hloads
        have hpairs : Decoded.ofPairs d.entries = d := Dict.foldl_set_entries d
        rw [hpairs] at h
        obtain rfl := Except.ok.inj h
        exact hd
      · obtain rfl := Except.ok.inj h
        exact hempty

omit [Field α] [LinearOrder α] in
/-- A dictionary of numbers that was written is loaded again. -/
lemma load_written (hplain : Interpreter.Plain consumed.entries) {text : List Char}
    (h : S.interpreter.dumps S.floats (.dict consumed.entries) = .ok text) :
    S.load (some (encode text)) = .ok consumed := by
  have hprintable := Interpreter.printable_dumps hplain h
  have hreturn : '\r' ∉ text := fun hmem => absurd (hprintable '\r' hmem) (by decide)
  have hpairs : Decoded.ofPairs consumed.entries = consumed := Dict.foldl_set_entries consumed
  unfold load
  dsimp only
  rw [encode_eq, readText_utf8Encode hreturn]
  dsimp only
  rw [Interpreter.loads_dumps hplain h]
  exact congrArg Except.ok hpairs

/-! ## What a call does -/

variable (gen) in
lemma checkAndAdd_of_seen (hload : S.load file = .ok consumed)
    (hseen : consumed.contains key = true) : S.checkAndAdd file key gen = (file, .ok false) := by
  unfold checkAndAdd
  rw [hload]
  exact if_pos hseen

/-- A call that returns "first seen" found a fresh key and only numbers, and wrote what is left. -/
lemma checkAndAdd_true (h : (S.checkAndAdd file key gen).2 = .ok true) :
    ∃ consumed text, S.load file = .ok consumed ∧ consumed.contains key = false ∧
      (∀ e ∈ consumed.entries, e.2.toNum?.isSome) ∧
      S.interpreter.dumps S.floats (.dict (S.recorded consumed key gen).entries) = .ok text ∧
      (S.checkAndAdd file key gen).1 = some (encode text) := by
  unfold checkAndAdd at h ⊢
  cases hload : S.load file with
  | error e =>
    rw [hload] at h
    cases h
  | ok consumed =>
    rw [hload] at h
    dsimp only at h ⊢
    split_ifs at h ⊢ with hseen hnumbers
    · cases h
    · cases hdumps : S.interpreter.dumps S.floats (.dict (S.recorded consumed key gen).entries) with
      | error e =>
        rw [hdumps] at h
        cases h
      | ok text =>
        refine ⟨consumed, text, rfl, Bool.eq_false_iff.mpr hseen, fun e he => ?_, hdumps, rfl⟩
        rw [← Option.not_isNone, Bool.not_eq_true']
        exact Bool.eq_false_iff.mpr fun hnone =>
          hnumbers (List.any_eq_true.mpr ⟨e, he, hnone⟩)

/-- A call that returns "seen" found the key. -/
lemma checkAndAdd_false (h : (S.checkAndAdd file key gen).2 = .ok false) :
    ∃ consumed, S.load file = .ok consumed ∧ consumed.contains key = true := by
  unfold checkAndAdd at h
  cases hload : S.load file with
  | error e =>
    rw [hload] at h
    cases h
  | ok consumed =>
    rw [hload] at h
    dsimp only at h
    split_ifs at h with hseen hnumbers
    · exact ⟨consumed, rfl, hseen⟩
    · split at h
      · cases h
      · cases h

variable [IsStrictOrderedRing α]

lemma keptAt_int (cutoff g : ℤ) : keptAt cutoff (.int g : Decoded α) = decide (cutoff ≤ g) :=
  PyNum.le_int_int cutoff g

/-- What is left once a fresh key is recorded. -/
lemma mem_recorded (hfresh : consumed.contains key = false) {e : PyStr × Decoded α} :
    e ∈ (S.recorded consumed key gen).entries ↔
      (e ∈ consumed.entries ∧ keptAt (gen - S.windowGens) e.2 = true) ∨
        (e = (key, .int gen) ∧ 0 ≤ S.windowGens) := by
  have hnone : consumed.get? key = none := by
    rw [← Option.not_isSome_iff_eq_none]
    exact Bool.eq_false_iff.mp hfresh
  unfold recorded Dict.filter
  dsimp only
  rw [List.mem_filter, Dict.entries_set_of_get?_eq_none hnone, List.mem_append, List.mem_singleton]
  constructor
  · rintro ⟨hold | rfl, hkept⟩
    · exact .inl ⟨hold, hkept⟩
    · rw [keptAt_int, decide_eq_true_eq] at hkept
      exact .inr ⟨rfl, by omega⟩
  · rintro (⟨hold, hkept⟩ | ⟨rfl, hwindow⟩)
    · exact ⟨.inl hold, hkept⟩
    · refine ⟨.inr rfl, ?_⟩
      rw [keptAt_int, decide_eq_true_eq]
      omega

variable (gen) in
/-- What is left are numbers under joined names, if the new key is joined or not kept. -/
lemma plain_recorded (hload : S.load file = .ok consumed)
    (hfresh : consumed.contains key = false)
    (hnumbers : ∀ e ∈ consumed.entries, e.2.toNum?.isSome)
    (hkey : 0 ≤ S.windowGens → key.Joined) :
    Interpreter.Plain (S.recorded consumed key gen).entries := by
  intro e he
  rcases (mem_recorded hfresh).mp he with ⟨hold, -⟩ | ⟨rfl, hwindow⟩
  · exact ⟨(load_sound hload e hold).1, hnumbers e hold⟩
  · exact ⟨hkey hwindow, rfl⟩

lemma contains_recorded (hfresh : consumed.contains key = false) :
    (S.recorded consumed key gen).contains key = true ↔ 0 ≤ S.windowGens := by
  rw [Dict.contains_iff]
  constructor
  · rintro ⟨g, hg⟩
    rcases (mem_recorded hfresh).mp ((Dict.mem_entries_iff _).mpr hg) with ⟨hold, -⟩ | ⟨-, hwindow⟩
    · have hseen := (Dict.contains_iff consumed key).mpr ⟨g, (Dict.mem_entries_iff _).mp hold⟩
      rw [hfresh] at hseen
      cases hseen
    · exact hwindow
  · intro hwindow
    exact ⟨.int gen, (Dict.mem_entries_iff _).mp ((mem_recorded hfresh).mpr (.inr ⟨rfl, hwindow⟩))⟩

/-- A key that can be recorded is first seen once. -/
lemma Recordable.firstSeenOnce (h : S.Recordable consumed key gen)
    (hload : S.load file = .ok consumed) (hfresh : consumed.contains key = false) :
    S.FirstSeenOnce file key gen := by
  have hplain := plain_recorded gen hload hfresh h.numbers fun _ => h.joined
  obtain ⟨text, htext⟩ := (Interpreter.dumps_dict_iff (I := S.interpreter) (T := S.floats)
      hplain).mpr fun e he => by
    rcases (mem_recorded hfresh).mp he with ⟨hold, -⟩ | ⟨rfl, -⟩
    · exact (load_sound hload e hold).2
    · exact h.short
  have hfirst : S.checkAndAdd file key gen = (some (encode text), .ok true) := by
    have hnumbers : (consumed.entries.any fun e => e.2.toNum?.isNone) = false := by
      rw [List.any_eq_false]
      intro e he
      rw [Option.isNone_iff_eq_none, ← Option.not_isSome_iff_eq_none, not_not]
      exact h.numbers e he
    unfold checkAndAdd
    rw [hload]
    dsimp only
    rw [hfresh, if_neg Bool.false_ne_true, hnumbers, if_neg Bool.false_ne_true, htext]
  refine ⟨true, false, by rw [hfirst], ?_, fun hboth => by cases hboth.2⟩
  rw [hfirst, checkAndAdd_of_seen gen (load_written hplain htext)
    ((contains_recorded hfresh).mpr h.window)]

/-- **Where one of two calls is refused.**  Two calls in a row with the same key and generation
return, and not both with "first seen", if and only if the file can be read and either holds the key
or lets it be recorded. -/
theorem firstSeenOnce_iff (S : FileIdempotencyStore α) (file : Option ByteArray) (key : PyStr)
    (gen : ℤ) : S.FirstSeenOnce file key gen ↔
      ∃ consumed, S.load file = .ok consumed ∧
        (consumed.contains key = true ∨ S.Recordable consumed key gen) := by
  constructor
  · rintro ⟨first, second, hfirst, hsecond, honce⟩
    cases first with
    | false =>
      obtain ⟨consumed, hload, hseen⟩ := checkAndAdd_false hfirst
      exact ⟨consumed, hload, .inl hseen⟩
    | true =>
      obtain ⟨consumed, text, hload, hfresh, hnumbers, hdumps, hfile⟩ := checkAndAdd_true hfirst
      refine ⟨consumed, hload, .inr ?_⟩
      -- the second call found the key in what the first one wrote
      obtain rfl : second = false := Bool.eq_false_iff.mpr fun hboth => honce ⟨rfl, hboth⟩
      rw [hfile] at hsecond
      obtain ⟨written, hwritten, hseen⟩ := checkAndAdd_false hsecond
      have hwindow : 0 ≤ S.windowGens := by
        by_contra hnot
        have hplain := plain_recorded gen hload hfresh hnumbers fun h => absurd h hnot
        rw [load_written hplain hdumps] at hwritten
        obtain rfl := Except.ok.inj hwritten
        exact hnot ((contains_recorded hfresh).mp hseen)
      have hjoined : key.Joined := by
        obtain ⟨g, hg⟩ := (Dict.contains_iff written key).mp hseen
        exact (load_sound hwritten (key, g) ((Dict.mem_entries_iff _).mpr hg)).1
      have hplain := plain_recorded gen hload hfresh hnumbers fun _ => hjoined
      have hconverts := (Interpreter.dumps_dict_iff hplain).mp ⟨text, hdumps⟩
      exact ⟨hnumbers, hwindow,
        hconverts (key, .int gen) ((mem_recorded hfresh).mpr (.inr ⟨rfl, hwindow⟩)), hjoined⟩
  · rintro ⟨consumed, hload, hseen | hrecordable⟩
    · have hcall := checkAndAdd_of_seen gen hload hseen
      refine ⟨false, false, by rw [hcall], ?_, fun hboth => by cases hboth.1⟩
      rw [hcall, hcall]
    · by_cases hseen : consumed.contains key = true
      · have hcall := checkAndAdd_of_seen gen hload hseen
        refine ⟨false, false, by rw [hcall], ?_, fun hboth => by cases hboth.1⟩
        rw [hcall, hcall]
      · exact hrecordable.firstSeenOnce hload (Bool.eq_false_iff.mpr hseen)

end Store

/-- A store with the default window over rational times, in an interpreter with the usual limits. -/
def rationalStore : FileIdempotencyStore ℚ where
  interpreter := ⟨1000, Nat.zero_lt_succ 999, some 4300⟩
  floats := .rational
  windowGens := 8

/-- Where there is no file yet, a key is first seen once. -/
theorem firstSeenOnce_iff_missing :
    rationalStore.load none = .ok .empty ∧
      rationalStore.FirstSeenOnce none (PyStr.ofChars ['k']) 3 := by
  refine ⟨rfl, (firstSeenOnce_iff rationalStore none (PyStr.ofChars ['k']) 3).mpr
    ⟨.empty, rfl, .inr ⟨fun e he => absurd he List.not_mem_nil, by decide, rfl, ?_⟩⟩⟩
  exact .singleton _

/-- An object with a value that is no number. -/
def nullObject : List Char := ['{', '"', 'k', '"', ':', 'n', 'u', 'l', 'l', '}']

lemma loads_nullObject : rationalStore.interpreter.loads rationalStore.floats nullObject =
    .ok (.dict [(PyStr.ofChars ['k'], .null)]) := rfl

/-- The file holds JSON, and an object at that, but the first call with a fresh key raises. -/
theorem nullObject_raises :
    ¬ rationalStore.FirstSeenOnce (some (encode nullObject)) (PyStr.ofChars ['j']) 3 := by
  have hload : rationalStore.load (some (encode nullObject)) =
      .ok (Decoded.ofPairs [(PyStr.ofChars ['k'], .null)]) := by
    unfold load
    dsimp only
    rw [encode_eq, readText_utf8Encode (by decide)]
    dsimp only
    rw [loads_nullObject]
  have hcall : (rationalStore.checkAndAdd (some (encode nullObject)) (PyStr.ofChars ['j']) 3).2 =
      .error .typeError := by
    unfold checkAndAdd
    rw [hload]
    rfl
  rintro ⟨first, second, hfirst, -⟩
  rw [hcall] at hfirst
  cases hfirst

end FileIdempotencyStore

end MiniatureWarehouse
