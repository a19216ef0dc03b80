import Mathlib.Tactic.SplitIfs
import HolonAdapter.Python.Exception
import HolonAdapter.Python.Float

/-!
# Python/Json — JSON documents, the values `json` makes of them, and the dict operations

    document ──json.load──▸ Python value ──json.dump──▸ document
    1e400        ⟼          inf           ⟼         Infinity

A JSON text writes a document (`JsonDoc`): numbers as the text writes them, objects as their
members in order.  `json.load` parses it and builds a Python value (`Json`), and that step is not
faithful to the document: an integer literal of more than 4300 digits raises `ValueError`, a number
with a fraction or an exponent becomes the nearest binary64 `float`, `NaN` and `±Infinity` are read
as floats, and of repeated names the last value is kept where the first stood (`JsonDoc.load`).
`json.dump` prints a value back as a document, a `float` by its shortest `repr` (`Json.toDoc`).
What the text looks like — the grammar, the spacing of `indent`, the escapes of strings — is the
library's (`JsonLib`).

A `dict` keeps its keys in insertion order: `d[k] = v` on a present key replaces the value in place,
on a new key appends it (`dictSet`); `d.get(k)` finds it (`dictGet`).  The adapter applies `.get`
and item assignment to values whose type it never checks, so both are modelled as the statements
they are: on anything but a `dict` they raise (`getAttr`, `setItem`).
-/

namespace HolonAdapter

/-! ## Documents -/

/-- A number of a JSON document, as its literal writes it. -/
inductive JsonNumber where
  /-- A literal with neither fraction nor exponent, `-?digits`. -/
  | int (n : ℤ)
  /-- A literal with a fraction or an exponent, of value `(-1)^neg · m · 10^e`. -/
  | dec (neg : Bool) (m : ℕ) (e : ℤ)
  /-- `NaN`, which Python's parser accepts and its printer writes. -/
  | nan
  /-- `Infinity`, `-Infinity`. -/
  | infinity (neg : Bool)
  deriving DecidableEq, Repr

/-- A JSON document. -/
inductive JsonDoc where
  | null
  | bool (b : Bool)
  | num (n : JsonNumber)
  | str (s : String)
  | arr (xs : List JsonDoc)
  | obj (kvs : List (String × JsonDoc))
  deriving Inhabited

/-- A Python value `json.load` returns: `None`, a `bool`, an `int`, a `float`, a `str`, a `list`,
or a `dict` with string keys. -/
inductive Json where
  | null
  | bool (b : Bool)
  | int (n : ℤ)
  | float (x : Float64)
  | str (s : String)
  | arr (xs : List Json)
  | obj (kvs : List (String × Json))
  deriving Inhabited

/-- `type(v).__name__`, as Python's error messages spell it. -/
def Json.typeName : Json → String
  | .null => "NoneType"
  | .bool _ => "bool"
  | .int _ => "int"
  | .float _ => "float"
  | .str _ => "str"
  | .arr _ => "list"
  | .obj _ => "dict"

/-! ## Dicts

A `dict` with string keys, over any value type: Python values and documents here, git trees in
`Git/Tree`. -/

section Dict

variable {β : Type}

/-- `d.get(k)`. -/
def dictGet (kvs : List (String × β)) (k : String) : Option β := kvs.lookup k

/-- `d[k] = v`: the key's entry is replaced where it stands, or appended. -/
def dictSet : List (String × β) → String → β → List (String × β)
  | [], k, v => [(k, v)]
  | (k', v') :: kvs, k, v => if k' = k then (k, v) :: kvs else (k', v') :: dictSet kvs k v

@[simp] theorem dictGet_nil (k : String) : dictGet ([] : List (String × β)) k = none := rfl

theorem dictGet_cons (j : String) (w : β) (kvs : List (String × β)) (k : String) :
    dictGet ((j, w) :: kvs) k = if k = j then some w else dictGet kvs k := by
  by_cases h : k = j
  · subst h; simp [dictGet]
  · rw [dictGet, List.lookup_cons, beq_false_of_ne h, if_neg h]; rfl

/-- **An assignment changes the one key it assigns.** -/
@[simp] theorem dictGet_dictSet (kvs : List (String × β)) (k k' : String) (v : β) :
    dictGet (dictSet kvs k v) k' = if k' = k then some v else dictGet kvs k' := by
  induction kvs with
  | nil => simp only [dictSet, dictGet_cons, dictGet_nil]
  | cons p kvs ih =>
    obtain ⟨j, w⟩ := p
    by_cases hj : j = k
    · subst hj; by_cases hk : k' = j <;> simp [dictSet, dictGet_cons, hk]
    · by_cases hk : k' = j
      · subst hk; simp [dictSet, dictGet_cons, hj]
      · simp [dictSet, dictGet_cons, hj, hk, ih]

end Dict

/-- `v[k]` of a dict: `none` on a missing key, or when `v` is no dict. -/
def Json.member (v : Json) (k : String) : Option Json :=
  match v with
  | .obj kvs => dictGet kvs k
  | _ => none

/-- The first member named `k` of an object of a document. -/
def JsonDoc.member (d : JsonDoc) (k : String) : Option JsonDoc :=
  match d with
  | .obj kvs => dictGet kvs k
  | _ => none

/-! ## `json.load`: from a document to a value -/

/-- The `ValueError` of `int()` on a literal of more than 4300 digits. -/
def intDigitsError (digits : ℕ) : PyExc :=
  ⟨.exception "ValueError", "Exceeds the limit (4300 digits) for integer string conversion: value has "
    ++ toString digits ++ " digits; use sys.set_int_max_str_digits() to increase the limit"⟩

/-- The value a number becomes: an `int` (within CPython's limit on the digits of a string it
converts), or the `float` nearest to it. -/
def JsonNumber.load : JsonNumber → Except PyExc Json
  | .int n =>
    if 4300 < Float64.numDigits n.natAbs then .error (intDigitsError (Float64.numDigits n.natAbs))
    else .ok (.int n)
  | .dec neg m e => .ok (.float (Float64.ofDecimal neg m e))
  | .nan => .ok (.float .nan)
  | .infinity neg => .ok (.float (.inf neg))

mutual

/-- **The value `json.load` builds from a document**, the first error in document order raised.
An object becomes a `dict` by assigning its members in order, so a repeated name keeps the last
value, where the first stood. -/
def JsonDoc.load : JsonDoc → Except PyExc Json
  | .null => .ok .null
  | .bool b => .ok (.bool b)
  | .num n => n.load
  | .str s => .ok (.str s)
  | .arr xs => .arr <$> JsonDoc.loadList xs
  | .obj kvs => .obj <$> JsonDoc.loadObj [] kvs

/-- The values of a document's array. -/
def JsonDoc.loadList : List JsonDoc → Except PyExc (List Json)
  | [] => .ok []
  | x :: xs => do
    let v ← x.load
    let vs ← JsonDoc.loadList xs
    pure (v :: vs)

/-- A document's members assigned, in order, into the dict built so far. -/
def JsonDoc.loadObj (acc : List (String × Json)) : List (String × JsonDoc) → Except PyExc (List (String × Json))
  | [] => .ok acc
  | (k, x) :: kvs => do
    let v ← x.load
    JsonDoc.loadObj (dictSet acc k v) kvs

end

/-! ## `json.dump`: from a value to a document -/

/-- How `json.dump` writes a `float` (`floatstr` of `json.encoder`): `NaN`, `Infinity`,
`-Infinity`, or `repr`. -/
def Float64.toNumber : Float64 → JsonNumber
  | .nan => .nan
  | .inf neg => .infinity neg
  | .finite neg m t =>
    if m = 0 then .dec neg 0 0
    else .dec neg (Float64.shortest neg m t).1 (Float64.shortest neg m t).2

mutual

/-- **The document `json.dump` writes for a value.** -/
def Json.toDoc : Json → JsonDoc
  | .null => .null
  | .bool b => .bool b
  | .int n => .num (.int n)
  | .float x => .num x.toNumber
  | .str s => .str s
  | .arr xs => .arr (Json.toDocList xs)
  | .obj kvs => .obj (Json.toDocObj kvs)

/-- The documents of a list's values. -/
def Json.toDocList : List Json → List JsonDoc
  | [] => []
  | v :: vs => v.toDoc :: Json.toDocList vs

/-- The members of a dict, in order. -/
def Json.toDocObj : List (String × Json) → List (String × JsonDoc)
  | [] => []
  | (k, v) :: kvs => (k, v.toDoc) :: Json.toDocObj kvs

end

/-- What the `json` module does with text: its parser, to the document a text writes, and its
printer of a document at an indentation. -/
structure JsonLib where
  parse : List Char → Option JsonDoc
  print : JsonDoc → ℕ → List Char

/-- A `json.JSONDecodeError`, up to the position in its message. -/
def jsonDecodeError : PyExc := ⟨.exception "JSONDecodeError", "Expecting value"⟩

/-- `json.load` of decoded text. -/
def JsonLib.loads (lib : JsonLib) (text : List Char) : Except PyExc Json :=
  match lib.parse text with
  | some d => d.load
  | none => .error jsonDecodeError

/-- The text `json.dump(v, f, indent=indent)` writes. -/
def JsonLib.dumps (lib : JsonLib) (v : Json) (indent : ℕ) : List Char := lib.print v.toDoc indent

/-- An error of an `Except` step comes through `bind` and `map` unchanged. -/
theorem except_bind_eq_error {α β : Type} {x : Except PyExc α} {f : α → Except PyExc β} {e : PyExc}
    (h : x.bind f = .error e) : x = .error e ∨ ∃ a, x = .ok a ∧ f a = .error e := by
  cases x with
  | error e' => exact .inl (by cases h; rfl)
  | ok a => exact .inr ⟨a, rfl, h⟩

theorem except_map_eq_error {α β : Type} {x : Except PyExc α} {f : α → β} {e : PyExc}
    (h : f <$> x = .error e) : x = .error e := by
  cases x with
  | error e' => cases h; rfl
  | ok a => cases h

mutual

/-- **The only error `json.load` meets in a parsed document** is the `ValueError` of an integer of
more than 4300 digits. -/
theorem JsonDoc.load_error : ∀ (d : JsonDoc) {e : PyExc}, d.load = .error e →
    ∃ n, e = intDigitsError n
  | .num (.int n), _, h => by
    rw [JsonDoc.load, JsonNumber.load] at h
    split_ifs at h
    cases h
    exact ⟨_, rfl⟩
  | .num (.dec _ _ _), _, h => by cases h
  | .num .nan, _, h => by cases h
  | .num (.infinity _), _, h => by cases h
  | .arr xs, _, h => JsonDoc.loadList_error xs (except_map_eq_error h)
  | .obj kvs, _, h => JsonDoc.loadObj_error [] kvs (except_map_eq_error h)
  | .null, _, h => by cases h
  | .bool _, _, h => by cases h
  | .str _, _, h => by cases h

theorem JsonDoc.loadList_error : ∀ (xs : List JsonDoc) {e : PyExc}, JsonDoc.loadList xs = .error e →
    ∃ n, e = intDigitsError n
  | [], _, h => by cases h
  | x :: xs, _, h => by
    rcases except_bind_eq_error h with h | ⟨v, -, h⟩
    · exact x.load_error h
    · rcases except_bind_eq_error h with h | ⟨vs, -, h⟩
      · exact JsonDoc.loadList_error xs h
      · cases h

theorem JsonDoc.loadObj_error : ∀ (acc : List (String × Json)) (kvs : List (String × JsonDoc))
    {e : PyExc}, JsonDoc.loadObj acc kvs = .error e → ∃ n, e = intDigitsError n
  | _, [], _, h => by cases h
  | acc, (k, x) :: kvs, _, h => by
    rcases except_bind_eq_error h with h | ⟨v, -, h⟩
    · exact x.load_error h
    · exact JsonDoc.loadObj_error _ kvs h

end

/-- `json.load` raises only `Exception`s: a `JSONDecodeError`, or the `ValueError` of an integer of
more than 4300 digits. -/
theorem JsonLib.isException_of_loads {lib : JsonLib} {text : List Char} {e : PyExc}
    (h : lib.loads text = .error e) : e.isException = true := by
  unfold JsonLib.loads at h
  split at h
  · obtain ⟨n, rfl⟩ := JsonDoc.load_error _ h
    rfl
  · cases h
    rfl

/-! ## Attribute access and item assignment on an unchecked value -/

variable {ρ σ : Type}

/-- `v.get(k, default)` — an `AttributeError` unless `v` is a dict. -/
def getAttr (v : Json) (k : String) (default : Json) : PyM ρ σ Json :=
  match v with
  | .obj kvs => pure ((dictGet kvs k).getD default)
  | v => PyM.raise ⟨.exception "AttributeError",
      "'" ++ v.typeName ++ "' object has no attribute 'get'"⟩

/-- `v[k] = x`, with the updated `v` — a `TypeError` unless `v` is a dict. -/
def setItem (v : Json) (k : String) (x : Json) : PyM ρ σ Json :=
  match v with
  | .obj kvs => pure (.obj (dictSet kvs k x))
  | v => PyM.raise ⟨.exception "TypeError",
      "'" ++ v.typeName ++ "' object does not support item assignment"⟩

@[simp] theorem getAttr_obj (kvs : List (String × Json)) (k : String) (d : Json) (r : ρ) (s : σ) :
    getAttr (ρ := ρ) (σ := σ) (.obj kvs) k d r s = .ok ((dictGet kvs k).getD d) s := rfl

@[simp] theorem setItem_obj (kvs : List (String × Json)) (k : String) (x : Json) (r : ρ) (s : σ) :
    setItem (ρ := ρ) (σ := σ) (.obj kvs) k x r s = .ok (.obj (dictSet kvs k x)) s := rfl

theorem stateless_getAttr (v : Json) (k : String) (d : Json) :
    PyM.Stateless (getAttr v k d : PyM ρ σ Json) := by
  cases v <;> exact fun _ _ => rfl

/-- Item assignment returns only on a dict, and leaves the state alone. -/
theorem setItem_eq_ok {v x y : Json} {k : String} {r : ρ} {s t : σ}
    (h : setItem v k x r s = .ok y t) : ∃ kvs, v = .obj kvs ∧ y = .obj (dictSet kvs k x) ∧ t = s := by
  cases v with
  | obj kvs => rw [setItem_obj] at h; cases h; exact ⟨kvs, rfl, rfl, rfl⟩
  | _ => cases h

end HolonAdapter
