import MiniatureWarehouse.Framework.CodePointText

/-!
# The codec as an interpreter runs it

`Interpreter.loads` is `json.loads` with everything that can go wrong in it: text that is not JSON,
values nested deeper than calls can be, and integers with more digits than the interpreter converts.
`Interpreter.dumps` is `json.dumps`, which fails for the last two.

What a program keeps in a file of its own is mostly an object of numbers.  It is written unless one
of them has too many digits (`dumps_dict_iff`), and then read back as it was (`loads_dumps`).
-/

namespace MiniatureWarehouse

namespace Decoded

/-! ## Values -/

/-- The value of a word or a number. -/
def ofAtom {α : Type*} : PyVal α → Decoded α
  | .bool b => .bool b
  | .int i => .int i
  | .float x => .float x
  | _ => .null

/-- The number a value is, if it is one; a boolean is an integer. -/
def toNum? {α : Type*} : Decoded α → Option (PyNum α)
  | .bool b => some (.int b.toInt)
  | .int i => some (.int i)
  | .float x => some (.float x)
  | _ => none

/-- The members of an object as a dictionary: the last of several equal names wins. -/
def ofPairs {α : Type*} (es : List (PyStr × Decoded α)) : Dict PyStr (Decoded α) :=
  es.foldl (fun d e => d.set e.1 e.2) .empty

/-- Every entry of the dictionary is one of the members. -/
lemma mem_of_mem_ofPairs {α : Type*} {es : List (PyStr × Decoded α)} {e : PyStr × Decoded α}
    (he : e ∈ (ofPairs es).entries) : e ∈ es := by
  have hfold : ∀ (es : List (PyStr × Decoded α)) (d : Dict PyStr (Decoded α)) {k : PyStr}
      {v : Decoded α}, (es.foldl (fun d e => d.set e.1 e.2) d).get? k = some v →
        (k, v) ∈ es ∨ d.get? k = some v := by
    intro es
    induction es with
    | nil => exact fun d k v h => .inr h
    | cons e es ih =>
      intro d k v h
      rcases ih (d.set e.1 e.2) h with hmem | hset
      · exact .inl (List.mem_cons_of_mem e hmem)
      · rw [Dict.get?_set] at hset
        split_ifs at hset with hk
        · obtain rfl := Option.some.inj hset
          exact .inl (hk ▸ List.mem_cons_self)
        · exact .inr hset
  rcases hfold es .empty ((Dict.mem_entries_iff _).mp he) with hmem | hempty
  · exact hmem
  · cases hempty

end Decoded

/-- What an interpreter puts a limit to: how deep calls nest, and how many digits an integer has
that is read from a text or written as one. -/
structure Interpreter where
  room : ℕ
  room_pos : 0 < room
  maxDigits : Option ℕ

/-- How `json.loads` fails: with the `JSONDecodeError` of text that is not JSON, or with what the
interpreter raises. -/
inductive ReadErr
  | notJson
  | raised (e : PyErr)

namespace Interpreter

open Json (skipWs)

/-- Has an integer no more digits than are converted? -/
def short (I : Interpreter) (i : ℤ) : Bool :=
  I.maxDigits.all fun m => (Nat.toDigits 10 i.natAbs).length ≤ m

section Codec

variable {α : Type*} (I : Interpreter) (T : Json.FloatText α)

/-- Is a value no integer that has too many digits? -/
def converts : Decoded α → Bool
  | .int i => I.short i
  | _ => true

/-- A word or a number. -/
def scanAtom (cs : List Char) : Except ReadErr (Decoded α × List Char) :=
  match Json.scanAtom T cs with
  | none => .error .notJson
  | some (v, r) =>
    if I.converts (Decoded.ofAtom v) then .ok (Decoded.ofAtom v, r)
    else .error (.raised .valueError)

mutual

/-- `scan_once`, with room for some levels of nesting. -/
def scanValue : ℕ → ℕ → List Char → Except ReadErr (Decoded α × List Char)
  | 0, _, _ => .error .notJson
  | _ + 1, _, [] => .error .notJson
  | n + 1, room, c :: cs =>
    if c = '"' then
      match Decoded.scanString n cs with
      | none => .error .notJson
      | some (s, r) => .ok (.str s, r)
    else if c = '[' then
      if room = 0 then .error (.raised .recursionError)
      else if (skipWs cs).head? = some ']' then .ok (.list [], (skipWs cs).tail)
      else (scanElements n (room - 1) (skipWs cs)).map fun x => (.list x.1, x.2)
    else if c = '{' then
      if room = 0 then .error (.raised .recursionError)
      else if (skipWs cs).head? = some '}' then .ok (.dict [], (skipWs cs).tail)
      else
        (scanMembers n (room - 1) (skipWs cs)).map fun x =>
          (.dict (Decoded.ofPairs x.1).entries, x.2)
    else I.scanAtom T (c :: cs)

/-- The loop of `JSONArray`. -/
def scanElements : ℕ → ℕ → List Char → Except ReadErr (List (Decoded α) × List Char)
  | 0, _, _ => .error .notJson
  | n + 1, room, cs =>
    match scanValue n room cs with
    | .error e => .error e
    | .ok (v, r) =>
      if (skipWs r).head? = some ']' then .ok ([v], (skipWs r).tail)
      else if (skipWs r).head? = some ',' then
        (scanElements n room (skipWs (skipWs r).tail)).map fun x => (v :: x.1, x.2)
      else .error .notJson

/-- The loop of `JSONObject`. -/
def scanMembers : ℕ → ℕ → List Char → Except ReadErr (List (PyStr × Decoded α) × List Char)
  | 0, _, _ => .error .notJson
  | n + 1, room, cs =>
    if cs.head? = some '"' then
      match Decoded.scanString n cs.tail with
      | none => .error .notJson
      | some (k, r) =>
        if (skipWs r).head? = some ':' then
          match scanValue n room (skipWs (skipWs r).tail) with
          | .error e => .error e
          | .ok (v, r) =>
            if (skipWs r).head? = some '}' then .ok ([(k, v)], (skipWs r).tail)
            else if (skipWs r).head? = some ',' then
              (scanMembers n room (skipWs (skipWs r).tail)).map fun x => ((k, v) :: x.1, x.2)
            else .error .notJson
        else .error .notJson
    else .error .notJson

end

/-- `json.loads(s)`. -/
def loads (s : List Char) : Except ReadErr (Decoded α) :=
  match I.scanValue T (2 * s.length + 2) I.room (skipWs s) with
  | .error e => .error e
  | .ok (v, r) => if skipWs r = [] then .ok v else .error .notJson

mutual

/-- A value as it is written, with room for some levels of nesting. -/
def encode : ℕ → Decoded α → Except PyErr (List Char)
  | _, .null => .ok ['n', 'u', 'l', 'l']
  | _, .bool true => .ok ['t', 'r', 'u', 'e']
  | _, .bool false => .ok ['f', 'a', 'l', 's', 'e']
  | _, .int i => if I.short i then .ok (Json.intText i) else .error .valueError
  | _, .float x => .ok (Json.floatText T x)
  | _, .str s => .ok (Decoded.stringAscii s)
  | room, .list [] => if room = 0 then .error .recursionError else .ok ['[', ']']
  | room, .list (v :: vs) =>
    if room = 0 then .error .recursionError
    else
      (encode (room - 1) v).bind fun p =>
        (encodeElements (room - 1) vs).map fun q => '[' :: (p ++ q)
  | room, .dict [] => if room = 0 then .error .recursionError else .ok ['{', '}']
  | room, .dict ((k, v) :: es) =>
    if room = 0 then .error .recursionError
    else
      (encode (room - 1) v).bind fun p =>
        (encodeEntries (room - 1) es).map fun q =>
          '{' :: (Decoded.stringAscii k ++ ':' :: ' ' :: (p ++ q))

/-- The elements after the first, and the closing bracket. -/
def encodeElements : ℕ → List (Decoded α) → Except PyErr (List Char)
  | _, [] => .ok [']']
  | room, v :: vs =>
    (encode room v).bind fun p =>
      (encodeElements room vs).map fun q => ',' :: ' ' :: (p ++ q)

/-- The entries after the first, and the closing brace. -/
def encodeEntries : ℕ → List (PyStr × Decoded α) → Except PyErr (List Char)
  | _, [] => .ok ['}']
  | room, (k, v) :: es =>
    (encode room v).bind fun p =>
      (encodeEntries room es).map fun q =>
        ',' :: ' ' :: (Decoded.stringAscii k ++ ':' :: ' ' :: (p ++ q))

end

/-- `json.dumps(value)`. -/
def dumps (v : Decoded α) : Except PyErr (List Char) := I.encode T I.room v

end Codec

/-! ## What is written is read back -/

section RoundTrip

variable {α : Type*} {I : Interpreter} {T : Json.FloatText α}

/-- A number is an atom of the codec without limits. -/
lemma scanAtom_of_scanValue {n : ℕ} {c : Char} {cs r : List Char} {w : PyVal α}
    (h : Json.scanValue T (n + 1) (c :: cs) = some (w, r)) (hw : w.toNum?.isSome) :
    Json.scanAtom T (c :: cs) = some (w, r) ∧ c ≠ '"' ∧ c ≠ '[' ∧ c ≠ '{' := by
  cases Json.valueStep_of_scanValue h with
  | string | emptyList | list | emptyDict | dict => cases hw
  | atom hquote hbracket hbrace hatom => exact ⟨hatom, hquote, hbracket, hbrace⟩

/-- How a number is written, and that it is read back. -/
structure NumberText (I : Interpreter) (T : Json.FloatText α) (v : Decoded α) (p : List Char) :
    Prop where
  encodes : ∀ room, I.encode T room v = if I.converts v then .ok p else .error .valueError
  head : ∃ c cs, p = c :: cs ∧ Json.isWs c = false
  printable : ∀ c ∈ p, 32 ≤ c.toNat
  scans : I.converts v = true → ∀ n room q, Json.EndsNumber q →
    I.scanValue T (n + 1) room (p ++ q) = .ok (v, q)

lemma numberText_dumps {w : PyVal α} (hw : w.toNum?.isSome)
    (hencodes : ∀ room, I.encode T room (Decoded.ofAtom w) =
      if I.converts (Decoded.ofAtom w) then .ok (Json.dumps T w) else .error .valueError) :
    NumberText I T (Decoded.ofAtom w) (Json.dumps T w) := by
  obtain ⟨c, cs, hcons, hws, -⟩ := Json.dumps_head (T := T) w
  refine ⟨hencodes, ⟨c, cs, hcons, hws⟩, Json.printable_dumps w, fun hconverts n room q hq => ?_⟩
  have hscan := Json.scanned (T := T) w (2 * (Json.dumps T w).length + 1) q (by omega) hq
  rw [hcons, List.cons_append] at hscan ⊢
  obtain ⟨hatom, hquote, hbracket, hbrace⟩ := scanAtom_of_scanValue hscan hw
  rw [scanValue, if_neg hquote, if_neg hbracket, if_neg hbrace, scanAtom, hatom]
  exact if_pos hconverts

lemma exists_numberText {v : Decoded α} (hv : v.toNum?.isSome) : ∃ p, NumberText I T v p :=
  match v with
  | .bool true => ⟨_, numberText_dumps (w := .bool true) rfl fun _ => rfl⟩
  | .bool false => ⟨_, numberText_dumps (w := .bool false) rfl fun _ => rfl⟩
  | .int i => ⟨_, numberText_dumps (w := .int i) rfl fun room => by
      rw [Decoded.ofAtom, encode, Json.dumps]
      rfl⟩
  | .float x => ⟨_, numberText_dumps (w := .float x) rfl fun _ => rfl⟩

/-- The entries are numbers under joined names. -/
def Plain (es : List (PyStr × Decoded α)) : Prop :=
  ∀ e ∈ es, e.1.Joined ∧ e.2.toNum?.isSome

lemma plain_cons {es : List (PyStr × Decoded α)} {k : PyStr} {v : Decoded α} :
    Plain ((k, v) :: es) ↔ (k.Joined ∧ v.toNum?.isSome) ∧ Plain es :=
  List.forall_mem_cons

lemma encodeEntries_iff {es : List (PyStr × Decoded α)} (hes : Plain es) (room : ℕ) :
    (∃ q, I.encodeEntries T room es = .ok q) ↔ ∀ e ∈ es, I.converts e.2 = true := by
  induction es with
  | nil => exact ⟨fun _ e he => absurd he List.not_mem_nil, fun _ => ⟨_, rfl⟩⟩
  | cons e es ih =>
    obtain ⟨k, v⟩ := e
    obtain ⟨⟨-, hv⟩, hes⟩ := plain_cons.mp hes
    obtain ⟨p, hp⟩ := exists_numberText (I := I) (T := T) hv
    rw [List.forall_mem_cons, ← ih hes, encodeEntries, hp.encodes]
    constructor
    · rintro ⟨q, h⟩
      obtain ⟨p', hp', h⟩ := exceptBind_eq_ok.mp h
      obtain ⟨q', hq', -⟩ := exceptMap_eq_ok.mp h
      refine ⟨?_, q', hq'⟩
      split_ifs at hp' with hconverts
      exact hconverts
    · rintro ⟨hconverts, q, hq⟩
      rw [if_pos hconverts, hq]
      exact ⟨_, rfl⟩

lemma printable_encodeEntries {es : List (PyStr × Decoded α)} (hes : Plain es) {room : ℕ}
    {q : List Char} (h : I.encodeEntries T room es = .ok q) : ∀ c ∈ q, 32 ≤ c.toNat := by
  induction es generalizing q with
  | nil =>
    obtain rfl := Except.ok.inj h
    exact Json.printable_of_all rfl
  | cons e es ih =>
    obtain ⟨k, v⟩ := e
    obtain ⟨⟨-, hv⟩, hes⟩ := plain_cons.mp hes
    obtain ⟨p, hp⟩ := exists_numberText (I := I) (T := T) hv
    rw [encodeEntries, hp.encodes] at h
    obtain ⟨p', hp', h⟩ := exceptBind_eq_ok.mp h
    obtain ⟨q', hq', rfl⟩ := exceptMap_eq_ok.mp h
    split_ifs at hp'
    obtain rfl := Except.ok.inj hp'
    have htail : ∀ c ∈ p ++ q', 32 ≤ c.toNat :=
      List.forall_mem_append.mpr ⟨hp.printable, ih hes hq'⟩
    exact List.forall_mem_cons.mpr ⟨by decide, List.forall_mem_cons.mpr ⟨by decide,
      List.forall_mem_append.mpr ⟨Decoded.printable_stringAscii k, List.forall_mem_cons.mpr
        ⟨by decide, List.forall_mem_cons.mpr ⟨by decide, htail⟩⟩⟩⟩⟩

/-- The entries of an object are scanned back, behind its opening brace. -/
lemma scanMembers_encodeEntries {es : List (PyStr × Decoded α)} {k : PyStr} {v : Decoded α}
    (hes : Plain ((k, v) :: es)) {room room' : ℕ} {p q : List Char}
    (hp : I.encode T room v = .ok p) (hq : I.encodeEntries T room es = .ok q) {n : ℕ}
    (hn : (Decoded.stringAscii k).length + p.length + q.length ≤ n) :
    I.scanMembers T n room' (Decoded.stringAscii k ++ ':' :: ' ' :: (p ++ q)) =
      .ok ((k, v) :: es, []) := by
  induction es generalizing k v p q n with
  | nil =>
    obtain ⟨⟨hk, hv⟩, -⟩ := plain_cons.mp hes
    obtain ⟨t, ht⟩ := exists_numberText (I := I) (T := T) hv
    obtain ⟨c, cs, hcons, hws⟩ := ht.head
    have hlength := Decoded.length_stringAscii k
    obtain ⟨n, rfl⟩ : ∃ n', n = n' + 1 := ⟨n - 1, by omega⟩
    obtain ⟨n, rfl⟩ : ∃ n', n = n' + 1 := ⟨n - 1, by omega⟩
    rw [ht.encodes] at hp
    split_ifs at hp with hconverts
    obtain rfl := Except.ok.inj hp
    obtain rfl := Except.ok.inj hq
    have hvalue := ht.scans hconverts n room' ['}'] (Json.endsNumber_cons (by decide) _)
    have hskip : skipWs (t ++ ['}']) = t ++ ['}'] := by
      rw [hcons, List.cons_append, Json.skipWs_of_head hws]
    rw [Decoded.stringAscii_append, scanMembers, List.head?_cons, if_pos rfl, List.tail_cons,
      Decoded.scanString_flatMap hk (by omega)]
    dsimp only
    rw [Json.skipWs_of_head (by decide), List.head?_cons, if_pos rfl, List.tail_cons,
      Json.skipWs_space, hskip, hvalue]
    rfl
  | cons e es ih =>
    obtain ⟨k', v'⟩ := e
    obtain ⟨⟨hk, hv⟩, hes'⟩ := plain_cons.mp hes
    obtain ⟨t, ht⟩ := exists_numberText (I := I) (T := T) hv
    obtain ⟨c, cs, hcons, hws⟩ := ht.head
    have hlength := Decoded.length_stringAscii k
    rw [encodeEntries] at hq
    obtain ⟨p', hp', hq⟩ := exceptBind_eq_ok.mp hq
    obtain ⟨q', hq', rfl⟩ := exceptMap_eq_ok.mp hq
    rw [List.length_cons, List.length_cons, List.length_append, List.length_cons,
      List.length_cons, List.length_append] at hn
    obtain ⟨n, rfl⟩ : ∃ n', n = n' + 1 := ⟨n - 1, by omega⟩
    obtain ⟨n, rfl⟩ : ∃ n', n = n' + 1 := ⟨n - 1, by omega⟩
    rw [ht.encodes] at hp
    split_ifs at hp with hconverts
    obtain rfl := Except.ok.inj hp
    have hmembers := ih hes' hp' hq' (n := n + 1) (by omega)
    set rest := Decoded.stringAscii k' ++ ':' :: ' ' :: (p' ++ q')
    have hvalue := ht.scans hconverts n room' (',' :: ' ' :: rest)
      (Json.endsNumber_cons (by decide) _)
    have hskip : skipWs (t ++ ',' :: ' ' :: rest) = t ++ ',' :: ' ' :: rest := by
      rw [hcons, List.cons_append, Json.skipWs_of_head hws]
    have hskipRest : skipWs rest = rest := by
      show skipWs (Decoded.stringAscii k' ++ _) = Decoded.stringAscii k' ++ _
      rw [Decoded.stringAscii_append, Json.skipWs_of_head (by decide)]
    rw [Decoded.stringAscii_append, scanMembers, List.head?_cons, if_pos rfl, List.tail_cons,
      Decoded.scanString_flatMap hk (by omega)]
    dsimp only
    rw [Json.skipWs_of_head (by decide), List.head?_cons, if_pos rfl, List.tail_cons,
      Json.skipWs_space, hskip, hvalue]
    dsimp only
    rw [Json.skipWs_of_head (by decide), List.head?_cons, if_neg (by decide), if_pos rfl,
      List.tail_cons, Json.skipWs_space, hskipRest, hmembers]
    rfl

/-- What is written for a dictionary is one entry after the other. -/
lemma encode_dict_iff {es : List (PyStr × Decoded α)} {room : ℕ} (hroom : 0 < room)
    {text : List Char} : I.encode T room (.dict es) = .ok text ↔
      (es = [] ∧ text = ['{', '}']) ∨ ∃ k v es' p q, es = (k, v) :: es' ∧
        I.encode T (room - 1) v = .ok p ∧ I.encodeEntries T (room - 1) es' = .ok q ∧
          text = '{' :: (Decoded.stringAscii k ++ ':' :: ' ' :: (p ++ q)) := by
  cases es with
  | nil =>
    rw [encode, if_neg (by omega)]
    constructor
    · exact fun h => .inl ⟨rfl, (Except.ok.inj h).symm⟩
    · rintro (⟨-, rfl⟩ | ⟨_, _, _, _, _, h, -⟩)
      · rfl
      · cases h
  | cons e es =>
    obtain ⟨k, v⟩ := e
    rw [encode, if_neg (by omega), exceptBind_eq_ok]
    constructor
    · rintro ⟨p, hp, h⟩
      obtain ⟨q, hq, rfl⟩ := exceptMap_eq_ok.mp h
      exact .inr ⟨k, v, es, p, q, rfl, hp, hq, rfl⟩
    · rintro (⟨h, -⟩ | ⟨k', v', es', p, q, h, hp, hq, rfl⟩)
      · cases h
      · obtain ⟨hentry, rfl⟩ := List.cons.inj h
        obtain ⟨rfl, rfl⟩ := Prod.mk.inj hentry
        exact ⟨p, hp, exceptMap_eq_ok.mpr ⟨q, hq, rfl⟩⟩

/-- A dictionary of numbers is written unless one of them has too many digits. -/
theorem dumps_dict_iff {es : List (PyStr × Decoded α)} (hes : Plain es) :
    (∃ text, I.dumps T (.dict es) = .ok text) ↔ ∀ e ∈ es, I.converts e.2 = true := by
  unfold dumps
  simp only [encode_dict_iff I.room_pos]
  cases es with
  | nil => exact ⟨fun _ e he => absurd he List.not_mem_nil, fun _ => ⟨_, .inl ⟨rfl, rfl⟩⟩⟩
  | cons e es =>
    obtain ⟨k, v⟩ := e
    obtain ⟨⟨-, hv⟩, hes⟩ := plain_cons.mp hes
    obtain ⟨t, ht⟩ := exists_numberText (I := I) (T := T) hv
    rw [List.forall_mem_cons, ← encodeEntries_iff (T := T) hes (I.room - 1)]
    constructor
    · rintro ⟨text, ⟨h, -⟩ | ⟨k', v', es', p, q, h, hp, hq, -⟩⟩
      · cases h
      · obtain ⟨hentry, rfl⟩ := List.cons.inj h
        obtain ⟨rfl, rfl⟩ := Prod.mk.inj hentry
        rw [ht.encodes] at hp
        split_ifs at hp with hconverts
        exact ⟨hconverts, q, hq⟩
    · rintro ⟨hconverts, q, hq⟩
      exact ⟨_, .inr ⟨k, v, es, t, q, rfl, (ht.encodes _).trans (if_pos hconverts), hq, rfl⟩⟩

lemma printable_dumps {es : List (PyStr × Decoded α)} (hes : Plain es) {text : List Char}
    (h : I.dumps T (.dict es) = .ok text) : ∀ c ∈ text, 32 ≤ c.toNat := by
  rcases (encode_dict_iff I.room_pos).mp h with ⟨-, rfl⟩ | ⟨k, v, es', p, q, rfl, hp, hq, rfl⟩
  · exact Json.printable_of_all rfl
  · have hentries : I.encodeEntries T (I.room - 1) ((k, v) :: es') =
        .ok (',' :: ' ' :: (Decoded.stringAscii k ++ ':' :: ' ' :: (p ++ q))) := by
      rw [encodeEntries, hp, hq]
      rfl
    have hall := printable_encodeEntries hes hentries
    exact List.forall_mem_cons.mpr ⟨by decide, fun c hc =>
      hall c (List.mem_cons_of_mem _ (List.mem_cons_of_mem _ hc))⟩

/-- **A dictionary of numbers under joined names is read back.** -/
theorem loads_dumps {d : Dict PyStr (Decoded α)} (hd : Plain d.entries) {text : List Char}
    (h : I.dumps T (.dict d.entries) = .ok text) : I.loads T text = .ok (.dict d.entries) := by
  have hroom := I.room_pos
  have hpairs : (Decoded.ofPairs d.entries).entries = d.entries :=
    congrArg Dict.entries (Dict.foldl_set_entries d)
  unfold loads
  rcases (encode_dict_iff I.room_pos).mp h with ⟨hnil, rfl⟩ | ⟨k, v, es, p, q, hcons, hp, hq, rfl⟩
  · rw [hnil, Json.skipWs_of_head (by decide), scanValue, if_neg (by decide), if_neg (by decide),
      if_pos rfl, if_neg (by omega), if_pos (by rfl)]
    rfl
  · rw [hcons] at hd
    set text := Decoded.stringAscii k ++ ':' :: ' ' :: (p ++ q) with htext
    have hmembers : I.scanMembers T (2 * (text.length + 1) + 1) (I.room - 1) text =
        .ok ((k, v) :: es, []) := by
      refine scanMembers_encodeEntries hd hp hq ?_
      simp only [htext, List.length_append, List.length_cons]
      omega
    have hskip : skipWs text = text := by
      rw [htext, Decoded.stringAscii_append, Json.skipWs_of_head (by decide)]
    have hhead : text.head? = some '"' := by
      rw [htext, Decoded.stringAscii_append]
      rfl
    rw [Json.skipWs_of_head (by decide), List.length_cons, scanValue, if_neg (by decide),
      if_neg (by decide), if_pos rfl, if_neg (by omega), hskip, hhead, if_neg (by decide),
      hmembers, ← hcons]
    show (if skipWs [] = [] then _ else _) = _
    rw [if_pos (by rfl), hpairs]

/-- What is scanned as an integer has few enough digits. -/
lemma converts_of_scanValue {n room : ℕ} {cs r : List Char} {v : Decoded α}
    (h : I.scanValue T n room cs = .ok (v, r)) : I.converts v = true := by
  cases n with
  | zero => cases h
  | succ n =>
    cases cs with
    | nil => cases h
    | cons c cs =>
      rw [scanValue] at h
      split_ifs at h with hquote hbracket hroom hclose hbrace hroom hclose
      · split at h
        · cases h
        · obtain ⟨rfl, -⟩ := Prod.mk.inj (Except.ok.inj h)
          rfl
      · obtain ⟨rfl, -⟩ := Prod.mk.inj (Except.ok.inj h)
        rfl
      · obtain ⟨x, -, heq⟩ := exceptMap_eq_ok.mp h
        obtain ⟨rfl, -⟩ := Prod.mk.inj heq
        rfl
      · obtain ⟨rfl, -⟩ := Prod.mk.inj (Except.ok.inj h)
        rfl
      · obtain ⟨x, -, heq⟩ := exceptMap_eq_ok.mp h
        obtain ⟨rfl, -⟩ := Prod.mk.inj heq
        rfl
      · unfold scanAtom at h
        split at h
        · cases h
        · split_ifs at h with hconverts
          obtain ⟨rfl, -⟩ := Prod.mk.inj (Except.ok.inj h)
          exact hconverts

/-- The members of an object that was scanned have joined names. -/
lemma scanMembers_sound {n room : ℕ} {cs r : List Char} {es : List (PyStr × Decoded α)}
    (h : I.scanMembers T n room cs = .ok (es, r)) :
    ∀ e ∈ es, e.1.Joined ∧ I.converts e.2 = true := by
  induction n generalizing cs es r with
  | zero => cases h
  | succ n ih =>
    rw [scanMembers] at h
    split_ifs at h with hquote
    split at h
    · cases h
    · rename_i k r₁ hkey
      obtain ⟨hjoined, -⟩ := Decoded.joined_of_scanString hkey
      split_ifs at h with hcolon
      split at h
      · cases h
      · rename_i v r₂ hvalue
        have hconverts := converts_of_scanValue hvalue
        split_ifs at h with hclose hcomma
        · obtain ⟨rfl, -⟩ := Prod.mk.inj (Except.ok.inj h)
          exact List.forall_mem_cons.mpr
            ⟨⟨hjoined, hconverts⟩, fun e he => absurd he List.not_mem_nil⟩
        · obtain ⟨x, hx, heq⟩ := exceptMap_eq_ok.mp h
          obtain ⟨rfl, -⟩ := Prod.mk.inj heq
          exact List.forall_mem_cons.mpr ⟨⟨hjoined, hconverts⟩, ih hx⟩

/-- **What an object is read as**: a dictionary under joined names, without an integer that could
not be written again. -/
theorem loads_dict_sound {text : List Char} {es : List (PyStr × Decoded α)}
    (h : I.loads T text = .ok (.dict es)) :
    ∃ d : Dict PyStr (Decoded α), es = d.entries ∧
      ∀ e ∈ d.entries, e.1.Joined ∧ I.converts e.2 = true := by
  unfold loads at h
  split at h
  · cases h
  · rename_i v r hvalue
    split_ifs at h
    obtain rfl := Except.ok.inj h
    rw [show 2 * text.length + 2 = 2 * text.length + 1 + 1 from rfl] at hvalue
    cases hcs : skipWs text with
    | nil =>
      rw [hcs] at hvalue
      cases hvalue
    | cons c cs =>
      rw [hcs, scanValue] at hvalue
      split_ifs at hvalue with hquote hbracket hroom hclose hbrace hroom hclose
      · split at hvalue
        · cases hvalue
        · obtain ⟨heq, -⟩ := Prod.mk.inj (Except.ok.inj hvalue)
          cases heq
      · obtain ⟨heq, -⟩ := Prod.mk.inj (Except.ok.inj hvalue)
        cases heq
      · obtain ⟨x, -, heq⟩ := exceptMap_eq_ok.mp hvalue
        obtain ⟨heq, -⟩ := Prod.mk.inj heq
        cases heq
      · obtain ⟨heq, -⟩ := Prod.mk.inj (Except.ok.inj hvalue)
        obtain rfl := Decoded.dict.inj heq
        exact ⟨.empty, rfl, fun e he => absurd he List.not_mem_nil⟩
      · obtain ⟨x, hx, heq⟩ := exceptMap_eq_ok.mp hvalue
        obtain ⟨heq, -⟩ := Prod.mk.inj heq
        obtain rfl := Decoded.dict.inj heq
        exact ⟨_, rfl, fun e he => scanMembers_sound hx e (Decoded.mem_of_mem_ofPairs he)⟩
      · unfold scanAtom at hvalue
        split at hvalue
        · cases hvalue
        · rename_i w r' _
          split_ifs at hvalue
          obtain ⟨heq, -⟩ := Prod.mk.inj (Except.ok.inj hvalue)
          cases w <;> cases heq

end RoundTrip

end Interpreter

end MiniatureWarehouse
