import MiniatureWarehouse.Framework.Runs
import MiniatureWarehouse.Framework.Values

/-!
# Generation check and idempotency

Every tool call first passes the generation check: a call of an older generation than the one
currently published is stale, and a call that carries an idempotency key is refused when the key
is still remembered.  The keys live in one file that maps each consumed key to the generation of
the call that consumed it; a call evicts every key more than a window of generations older than
its own.

The file is modelled by what reading and decoding it yields, because that is all the store
looks at.  Keys and generations arrive as decoded JSON, so every operation on them is one on
`PyVal`s and raises where the language does.
-/

namespace MiniatureWarehouse

/-- What the idempotency file holds, as `_load` sees it. -/
inductive StoreFile (α : Type*)
  /-- There is no file. -/
  | missing
  /-- Text that is not JSON. -/
  | damaged
  /-- Reading or decoding raises something else. -/
  | unreadable (e : PyErr)
  /-- A JSON object. -/
  | object (entries : Dict String (PyVal α))
  /-- Any other JSON value. -/
  | other

/-- `_load`: the remembered keys, nothing where the file is no object. -/
def StoreFile.load {α : Type*} : StoreFile α → Except PyErr (Dict String (PyVal α))
  | .missing | .damaged | .other => .ok .empty
  | .unreadable e => .error e
  | .object entries => .ok entries

/-- `IDEMPOTENCY_WINDOW_GENS`. -/
def idempotencyWindowGens : ℕ := 8

/-- The two ways the generation check refuses a call. -/
inductive GenReason
  | staleGeneration
  | duplicateCommand
  deriving DecidableEq, Repr

/-- `GenCheckResult`; the call is accepted when there is no reason. -/
structure GenCheckResult where
  reason : Option GenReason
  curGen : ℤ
  deriving DecidableEq, Repr

/-- `ok` of the result. -/
def GenCheckResult.ok (r : GenCheckResult) : Bool := r.reason.isNone

/-- The two shared stores: the published generation, and the idempotency file. -/
structure Stores (α : Type*) where
  gen : Option ℤ
  idempotency : StoreFile α

/-- Stores nothing was ever written to. -/
def Stores.empty {α : Type*} : Stores α := ⟨none, .missing⟩

/-- `GenStore.get`: zero before the first publication. -/
def Stores.curGen {α : Type*} (s : Stores α) : ℤ := s.gen.getD 0

section Check

variable {α : Type*} [Field α] [LinearOrder α] [IsStrictOrderedRing α] (F : FloatFormat α)

/-- The text under which `json.dumps` writes a key; `reprFloat` prints a float. -/
def keyText (reprFloat : PyFloat α → String) : PyVal α → String
  | .str s => s
  | .null => "null"
  | .bool true => "true"
  | .bool false => "false"
  | .int i => toString i
  | .float x => reprFloat x
  | .list _ | .dict _ => ""

/-- `key in consumed`: only a string can be a remembered key, and a container cannot be looked
up at all. -/
def keyIn (consumed : Dict String (PyVal α)) : PyVal α → Except PyErr Bool
  | .str s => .ok (consumed.contains s)
  | .list _ | .dict _ => .error .typeError
  | _ => .ok false

/-- Does every remembered value compare with the cutoff? -/
def allNumbers (consumed : Dict String (PyVal α)) : Bool :=
  consumed.entries.all fun e => e.2.toNum?.isSome

/-- `g >= cutoff` for a remembered value. -/
def keptAt (cutoff : PyNum α) (g : PyVal α) : Bool :=
  match g.toNum? with
  | some g => cutoff.le g
  | none => false

/-- `check_and_add`: consume a key for a generation, or find it remembered. -/
def StoreFile.checkAndAdd (reprFloat : PyFloat α → String) (window : ℕ) (file : StoreFile α)
    (key gen : PyVal α) : StoreFile α × Except PyErr Bool :=
  match file.load with
  | .error e => (file, .error e)
  | .ok consumed =>
    match keyIn consumed key with
    | .error e => (file, .error e)
    | .ok true => (file, .ok false)
    | .ok false =>
      match gen.toNum? with
      | none => (file, .error .typeError)
      | some g =>
        let cutoff := g.subInt F window
        if !allNumbers consumed then (file, .error .typeError)
        else
          let kept := consumed.filter fun _ v => keptAt cutoff v
          let kept := if keptAt cutoff gen then kept.set (keyText reprFloat key) gen else kept
          (.object kept, .ok true)

/-- `is_stale`: strictly older than the current generation. -/
def isStale (gen : PyVal α) (cur : ℤ) : Except PyErr Bool :=
  match gen.toNum? with
  | some g => .ok (g.lt (.int cur))
  | none => .error .typeError

/-- `GenChecker.check`: the generation first, then the key, which a stale call never consumes. -/
def Stores.check (reprFloat : PyFloat α → String) (window : ℕ) (s : Stores α)
    (gen key : PyVal α) : Stores α × Except PyErr GenCheckResult :=
  match isStale gen s.curGen with
  | .error e => (s, .error e)
  | .ok true => (s, .ok ⟨some .staleGeneration, s.curGen⟩)
  | .ok false =>
    match key with
    | .null => (s, .ok ⟨none, s.curGen⟩)
    | key =>
      let (file, added) := s.idempotency.checkAndAdd F reprFloat window key gen
      ({ s with idempotency := file },
        added.map fun
          | true => ⟨none, s.curGen⟩
          | false => ⟨some .duplicateCommand, s.curGen⟩)

end Check

end MiniatureWarehouse
