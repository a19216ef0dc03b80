import Mathlib.Data.List.Basic
import Mathlib.Algebra.Group.Nat.Basic
import HolonAdapter.Python.Exception

/-!
# Python/Text — text mode over UTF-8: what survives a read and a write

The adapter reads and writes every file in text mode, and captures `git diff` with `text=True`.
In its container (a UTF-8 locale) text mode is three steps:

* input is decoded by CPython's **strict** UTF-8 decoder (`decodeUtf8`) — an ill-formed sequence
  raises `UnicodeDecodeError`;
* input then has its newlines translated (`translateNewlines`): `subprocess` does
  `.replace("\r\n", "\n").replace("\r", "\n")`, and a file opened with `newline=None` reads `\r\n`
  and `\r` as `\n` — the same map;
* output is encoded as UTF-8 (`encodeUtf8`, the library's `String.utf8EncodeChar` per
  character), with `\n` written as `os.linesep`, itself `\n`.

`encodeUtf8_readText_eq_self_iff` — reading bytes in text mode and writing the text back gives the
same bytes **exactly** when they are well-formed UTF-8 holding no carriage return.
-/

namespace HolonAdapter

/-- Bytes, as read from a file or a pipe. -/
abbrev Bytes := List UInt8

/-! ## The strict decoder

Unicode's table of well-formed byte sequences (Table 3-7), which CPython's decoder follows: the lead
byte fixes the length, and for the leads `E0`, `ED`, `F0`, `F4` the second byte has a narrower
range, ruling out overlong forms, surrogates and code points past `10FFFF`. -/

/-- What a byte can start. -/
inductive Lead where
  | ascii
  | two
  | three
  | four
  | invalid

/-- The sequence a lead byte starts: `00–7F` alone, `C2–DF` two bytes, `E0–EF` three, `F0–F4`
four; `80–C1` and `F5–FF` start none. -/
def leadOf (n : ℕ) : Lead :=
  if n < 0x80 then .ascii else if n < 0xC2 then .invalid else if n < 0xE0 then .two
  else if n < 0xF0 then .three else if n < 0xF5 then .four else .invalid

/-- The byte lies in `lo–hi`. -/
def InRange (lo hi : ℕ) (b : UInt8) : Prop := lo ≤ b.toNat ∧ b.toNat ≤ hi

instance (lo hi : ℕ) (b : UInt8) : Decidable (InRange lo hi b) :=
  inferInstanceAs (Decidable (_ ∧ _))

/-- The least second byte after lead `n`. -/
def secondLow (n : ℕ) : ℕ := if n = 0xE0 then 0xA0 else if n = 0xF0 then 0x90 else 0x80

/-- The greatest second byte after lead `n`. -/
def secondHigh (n : ℕ) : ℕ := if n = 0xED then 0x9F else if n = 0xF4 then 0x8F else 0xBF

/-- **`bytes.decode("utf-8")`, strict**: the characters, or `none` where CPython raises
`UnicodeDecodeError`. -/
def decodeUtf8 : Bytes → Option (List Char)
  | [] => some []
  | b0 :: bs =>
    match leadOf b0.toNat, bs with
    | .ascii, rest => (Char.ofNat b0.toNat :: ·) <$> decodeUtf8 rest
    | .two, b1 :: rest =>
      if InRange 0x80 0xBF b1 then
        (Char.ofNat (b0.toNat % 32 * 64 + b1.toNat % 64) :: ·) <$> decodeUtf8 rest
      else none
    | .three, b1 :: b2 :: rest =>
      if InRange (secondLow b0.toNat) (secondHigh b0.toNat) b1 ∧ InRange 0x80 0xBF b2 then
        (Char.ofNat (b0.toNat % 16 * 4096 + b1.toNat % 64 * 64 + b2.toNat % 64) :: ·) <$>
          decodeUtf8 rest
      else none
    | .four, b1 :: b2 :: b3 :: rest =>
      if InRange (secondLow b0.toNat) (secondHigh b0.toNat) b1 ∧ InRange 0x80 0xBF b2 ∧
          InRange 0x80 0xBF b3 then
        (Char.ofNat (b0.toNat % 8 * 262144 + b1.toNat % 64 * 4096 + b2.toNat % 64 * 64 +
          b3.toNat % 64) :: ·) <$> decodeUtf8 rest
      else none
    | _, _ => none

/-- `str.encode("utf-8")`. -/
def encodeUtf8 (cs : List Char) : Bytes := cs.flatMap String.utf8EncodeChar

/-! ## The encoder, in arithmetic

`String.utf8EncodeChar` shifts and masks a `UInt32`; `utf8Nat` is the same bytes as numbers.  The
masks are settled once, over the 256 bytes, by `decide`. -/

/-- The UTF-8 bytes of code point `n`, as numbers. -/
def utf8Nat (n : ℕ) : List ℕ :=
  if n ≤ 0x7f then [n]
  else if n ≤ 0x7ff then [n / 64 % 32 + 0xc0, n % 64 + 0x80]
  else if n ≤ 0xffff then [n / 4096 % 16 + 0xe0, n / 64 % 64 + 0x80, n % 64 + 0x80]
  else [n / 262144 % 8 + 0xf0, n / 4096 % 64 + 0x80, n / 64 % 64 + 0x80, n % 64 + 0x80]

theorem toNat_toUInt8 (v : UInt32) : v.toUInt8.toNat = v.toNat % 256 := by
  simp [UInt32.toUInt8, UInt8.toNat, Nat.toUInt8, UInt8.ofNat]

theorem toNat_shiftRight_toUInt8 (v : UInt32) (k : ℕ) (hk : k < 32) :
    (v >>> UInt32.ofNat k).toUInt8.toNat = v.toNat / 2 ^ k % 256 := by
  rw [toNat_toUInt8]
  show (v.toBitVec >>> (UInt32.mod (UInt32.ofNat k) 32).toBitVec).toNat % 256 = _
  rw [BitVec.ushiftRight_eq', BitVec.toNat_ushiftRight, Nat.shiftRight_eq_div_pow]
  congr
  show k % 4294967296 % 32 = k
  omega

theorem uint8_ofNat_toNat (x : UInt8) : UInt8.ofNat x.toNat = x :=
  UInt8.toNat.inj (UInt8.toNat_ofNat_of_lt x.toNat_lt_size)

set_option maxRecDepth 20000 in
theorem or_and_toNat_ofNat : ∀ n < 256,
    ((UInt8.ofNat n &&& 0x3f ||| 0x80) : UInt8).toNat = n % 64 + 0x80 ∧
    ((UInt8.ofNat n &&& 0x1f ||| 0xc0) : UInt8).toNat = n % 32 + 0xc0 ∧
    ((UInt8.ofNat n &&& 0x0f ||| 0xe0) : UInt8).toNat = n % 16 + 0xe0 ∧
    ((UInt8.ofNat n &&& 0x07 ||| 0xf0) : UInt8).toNat = n % 8 + 0xf0 := by
  decide

/-- The four masks `String.utf8EncodeChar` applies, as arithmetic. -/
theorem or_and_toNat (x : UInt8) :
    (x &&& 0x3f ||| 0x80).toNat = x.toNat % 64 + 0x80 ∧
    (x &&& 0x1f ||| 0xc0).toNat = x.toNat % 32 + 0xc0 ∧
    (x &&& 0x0f ||| 0xe0).toNat = x.toNat % 16 + 0xe0 ∧
    (x &&& 0x07 ||| 0xf0).toNat = x.toNat % 8 + 0xf0 := by
  simpa [uint8_ofNat_toNat] using or_and_toNat_ofNat x.toNat x.toNat_lt_size

theorem char_val_le_iff (c : Char) (m : ℕ) (hm : m < 4294967296) :
    c.val ≤ UInt32.ofNat m ↔ c.toNat ≤ m := by
  rw [UInt32.le_def, BitVec.le_def]
  show c.toNat ≤ (BitVec.ofNat 32 m).toNat ↔ _
  rw [BitVec.toNat_ofNat, Nat.mod_eq_of_lt hm]

theorem char_toNat_lt (c : Char) : c.toNat < 0x110000 := by
  rcases c.valid with h | h <;> simp only [Char.toNat] <;> omega

/-- **The library encoder, in arithmetic.** -/
theorem map_toNat_utf8EncodeChar (c : Char) :
    (String.utf8EncodeChar c).map UInt8.toNat = utf8Nat c.toNat := by
  have h0 : c.val.toUInt8.toNat = c.toNat % 256 := toNat_toUInt8 c.val
  have h6 : (c.val >>> 6).toUInt8.toNat = c.toNat / 64 % 256 :=
    toNat_shiftRight_toUInt8 c.val 6 (by omega)
  have h12 : (c.val >>> 12).toUInt8.toNat = c.toNat / 4096 % 256 :=
    toNat_shiftRight_toUInt8 c.val 12 (by omega)
  have h18 : (c.val >>> 18).toUInt8.toNat = c.toNat / 262144 % 256 :=
    toNat_shiftRight_toUInt8 c.val 18 (by omega)
  have hA : c.val ≤ 0x7f ↔ c.toNat ≤ 0x7f := char_val_le_iff c 0x7f (by omega)
  have hB : c.val ≤ 0x7ff ↔ c.toNat ≤ 0x7ff := char_val_le_iff c 0x7ff (by omega)
  have hC : c.val ≤ 0xffff ↔ c.toNat ≤ 0xffff := char_val_le_iff c 0xffff (by omega)
  have hlt := char_toNat_lt c
  simp only [String.utf8EncodeChar, utf8Nat, hA, hB, hC]
  split_ifs <;> simp only [List.map, or_and_toNat, h0, h6, h12, h18, List.cons.injEq,
    and_true] <;> omega

theorem utf8EncodeChar_eq {c : Char} {bs : Bytes} (h : utf8Nat c.toNat = bs.map UInt8.toNat) :
    String.utf8EncodeChar c = bs :=
  List.map_injective_iff.mpr (fun _ _ => UInt8.toNat.inj) ((map_toNat_utf8EncodeChar c).trans h)

theorem char_toNat_ofNat {n : ℕ} (h : n.isValidChar) : (Char.ofNat n).toNat = n := by
  simp [Char.ofNat, h, Char.ofNatAux, Char.toNat, UInt32.toNat]

/-- The character a well-formed sequence decodes to encodes back to that sequence. -/
theorem utf8EncodeChar_ofNat {n : ℕ} {bs : Bytes} (hv : n.isValidChar)
    (h : utf8Nat n = bs.map UInt8.toNat) : String.utf8EncodeChar (Char.ofNat n) = bs :=
  utf8EncodeChar_eq (by rw [char_toNat_ofNat hv, h])

/-- A multi-byte sequence holds no byte below `0x80`: only `'\r'` encodes to a `0x0D` byte. -/
theorem mem_utf8Nat (c : Char) : 13 ∈ utf8Nat c.toNat ↔ c = '\r' := by
  constructor
  · intro h
    have h13 : c.toNat = 13 := by
      simp only [utf8Nat] at h
      split_ifs at h <;> simp at h; omega
    rw [← Char.ofNat_toNat c, h13]
  · rintro rfl
    decide

/-! ## Decoding, then encoding -/

/-- What each lead byte's kind says of its value. -/
theorem leadOf_range (n : ℕ) :
    (leadOf n = .ascii ↔ n < 0x80) ∧ (leadOf n = .two ↔ 0xC2 ≤ n ∧ n < 0xE0) ∧
      (leadOf n = .three ↔ 0xE0 ≤ n ∧ n < 0xF0) ∧ (leadOf n = .four ↔ 0xF0 ≤ n ∧ n < 0xF5) := by
  unfold leadOf
  split_ifs <;> simp only [reduceCtorEq, iff_true, iff_false, true_iff, false_iff] <;> omega

/-- What the bounds on a second byte say, lead by lead. -/
theorem secondRange {n m : ℕ} :
    (secondLow n ≤ m ∧ m ≤ secondHigh n) ↔
      (n = 0xE0 → 0xA0 ≤ m) ∧ (n = 0xED → m ≤ 0x9F) ∧ (n = 0xF0 → 0x90 ≤ m) ∧
        (n = 0xF4 → m ≤ 0x8F) ∧ 0x80 ≤ m ∧ m ≤ 0xBF := by
  unfold secondLow secondHigh
  split_ifs <;> subst_vars <;> simp_all <;> omega

theorem utf8Nat_one {n0 : ℕ} (h0 : n0 < 0x80) : n0.isValidChar ∧ utf8Nat n0 = [n0] :=
  ⟨by simp only [Nat.isValidChar]; omega, by simp [utf8Nat]; omega⟩

theorem utf8Nat_two {n0 n1 : ℕ} (h0 : 0xC2 ≤ n0 ∧ n0 < 0xE0) (h1 : 0x80 ≤ n1 ∧ n1 ≤ 0xBF) :
    (n0 % 32 * 64 + n1 % 64).isValidChar ∧ utf8Nat (n0 % 32 * 64 + n1 % 64) = [n0, n1] := by
  refine ⟨by simp only [Nat.isValidChar]; omega, ?_⟩
  rw [utf8Nat, if_neg (by omega), if_pos (by omega)]
  simp only [List.cons.injEq, and_true]
  omega

/-- Three bytes: the `E0` bound rules out an overlong form, the `ED` bound a surrogate. -/
theorem utf8Nat_three {n0 n1 n2 : ℕ} (h0 : 0xE0 ≤ n0 ∧ n0 < 0xF0)
    (h1 : secondLow n0 ≤ n1 ∧ n1 ≤ secondHigh n0) (h2 : 0x80 ≤ n2 ∧ n2 ≤ 0xBF) :
    (n0 % 16 * 4096 + n1 % 64 * 64 + n2 % 64).isValidChar ∧
      utf8Nat (n0 % 16 * 4096 + n1 % 64 * 64 + n2 % 64) = [n0, n1, n2] := by
  obtain ⟨hE0, hED, -, -, h1⟩ := secondRange.mp h1
  have hv : 0x800 ≤ n0 % 16 * 4096 + n1 % 64 * 64 + n2 % 64 := by clear hED; omega
  refine ⟨by simp only [Nat.isValidChar]; clear hE0; omega, ?_⟩
  clear hE0 hED
  rw [utf8Nat, if_neg (by omega), if_neg (by omega), if_pos (by omega)]
  simp only [List.cons.injEq, and_true]
  omega

/-- Four bytes: the `F0` bound rules out an overlong form, the `F4` bound a code point past
`10FFFF`. -/
theorem utf8Nat_four {n0 n1 n2 n3 : ℕ} (h0 : 0xF0 ≤ n0 ∧ n0 < 0xF5)
    (h1 : secondLow n0 ≤ n1 ∧ n1 ≤ secondHigh n0) (h2 : 0x80 ≤ n2 ∧ n2 ≤ 0xBF)
    (h3 : 0x80 ≤ n3 ∧ n3 ≤ 0xBF) :
    (n0 % 8 * 262144 + n1 % 64 * 4096 + n2 % 64 * 64 + n3 % 64).isValidChar ∧
      utf8Nat (n0 % 8 * 262144 + n1 % 64 * 4096 + n2 % 64 * 64 + n3 % 64) = [n0, n1, n2, n3] := by
  obtain ⟨-, -, hF0, hF4, h1⟩ := secondRange.mp h1
  have hv : 0x10000 ≤ n0 % 8 * 262144 + n1 % 64 * 4096 + n2 % 64 * 64 + n3 % 64 ∧
      n0 % 8 * 262144 + n1 % 64 * 4096 + n2 % 64 * 64 + n3 % 64 < 0x110000 := by omega
  clear hF0 hF4
  refine ⟨by simp only [Nat.isValidChar]; omega, ?_⟩
  rw [utf8Nat, if_neg (by omega), if_neg (by omega), if_neg (by omega)]
  simp only [List.cons.injEq, and_true]
  omega

/-- A `<$>` over a successful decode of the rest. -/
theorem cons_map_eq_some {c : Char} {o : Option (List Char)} {cs : List Char}
    (h : (c :: ·) <$> o = some cs) : ∃ cs', o = some cs' ∧ cs = c :: cs' := by
  cases o with
  | none => cases h
  | some cs' => exact ⟨cs', rfl, (Option.some.inj h).symm⟩

@[simp] theorem encodeUtf8_nil : encodeUtf8 [] = [] := rfl

@[simp] theorem encodeUtf8_cons (c : Char) (cs : List Char) :
    encodeUtf8 (c :: cs) = String.utf8EncodeChar c ++ encodeUtf8 cs :=
  List.flatMap_cons ..

@[simp] theorem encodeUtf8_append (cs cs' : List Char) :
    encodeUtf8 (cs ++ cs') = encodeUtf8 cs ++ encodeUtf8 cs' :=
  List.flatMap_append ..

/-- One decoded character, then the rest: the encoding is the character's bytes, then the rest's. -/
theorem encodeUtf8_decoded {n : ℕ} (pre : Bytes) {rest : Bytes} {cs : List Char}
    (hn : n.isValidChar ∧ utf8Nat n = pre.map UInt8.toNat)
    (ih : ∀ {cs'}, decodeUtf8 rest = some cs' → encodeUtf8 cs' = rest)
    (h : (Char.ofNat n :: ·) <$> decodeUtf8 rest = some cs) : encodeUtf8 cs = pre ++ rest := by
  obtain ⟨cs', hcs', rfl⟩ := cons_map_eq_some h
  rw [encodeUtf8_cons, ih hcs', utf8EncodeChar_ofNat hn.1 hn.2]

/-- **Decoding loses nothing**: a sequence that decodes is the encoding of what it decodes to. -/
theorem encodeUtf8_of_decodeUtf8 {b : Bytes} {cs : List Char} (h : decodeUtf8 b = some cs) :
    encodeUtf8 cs = b := by
  induction b using decodeUtf8.induct generalizing cs with
  | case1 => cases h; rfl
  | case2 b0 rest hl ih =>
    rw [decodeUtf8.eq_2 _ _ hl] at h
    exact encodeUtf8_decoded [b0] (utf8Nat_one ((leadOf_range _).1.mp hl)) ih h
  | case3 b0 b1 rest hl h1 ih =>
    rw [decodeUtf8.eq_3 _ _ _ hl, if_pos h1] at h
    exact encodeUtf8_decoded [b0, b1] (utf8Nat_two ((leadOf_range _).2.1.mp hl) h1) ih h
  | case5 b0 b1 b2 rest hl h12 ih =>
    rw [decodeUtf8.eq_4 _ _ _ _ hl, if_pos h12] at h
    exact encodeUtf8_decoded [b0, b1, b2]
      (utf8Nat_three ((leadOf_range _).2.2.1.mp hl) h12.1 h12.2) ih h
  | case7 b0 b1 b2 b3 rest hl h123 ih =>
    rw [decodeUtf8.eq_5 _ _ _ _ _ hl, if_pos h123] at h
    exact encodeUtf8_decoded [b0, b1, b2, b3]
      (utf8Nat_four ((leadOf_range _).2.2.2.mp hl) h123.1 h123.2.1 h123.2.2) ih h
  | _ => simp_all [decodeUtf8]

/-! ## Encoding, then decoding

The decoder takes back exactly the bytes of each character: the code point is split into its
6-bit digits, and every range test of Table 3-7 is then a linear fact about the digits. -/

theorem toNat_uint8_ofNat {n : ℕ} (h : n < 256) : (UInt8.ofNat n).toNat = n :=
  UInt8.toNat_ofNat_of_lt h

theorem map_cons_ofNat {m n : ℕ} (h : m = n) (d : Option (List Char)) :
    (Char.ofNat m :: ·) <$> d = (Char.ofNat n :: ·) <$> d := by
  rw [h]

/-! The encoder splits a code point into base-64 digits; writing the point with its digits
explicit, `64 * (64 * a + b) + c`, leaves each lemma linear facts only. -/

theorem div_digit {q r : ℕ} (hr : r < 64) : (64 * q + r) / 64 = q := by
  rw [Nat.mul_add_div (by decide), Nat.div_eq_of_lt hr, Nat.add_zero]

theorem mod_digit {q r : ℕ} (hr : r < 64) : (64 * q + r) % 64 = r := by
  rw [Nat.mul_add_mod, Nat.mod_eq_of_lt hr]

theorem add_mod_of_lt {q k c : ℕ} (hq : q < k) (hc : c % k = 0) : (q + c) % k = q := by
  rw [Nat.add_mod, hc, Nat.add_zero, Nat.mod_mod, Nat.mod_eq_of_lt hq]

theorem div_4096 (n : ℕ) : n / 4096 = n / 64 / 64 := by
  rw [Nat.div_div_eq_div_mul]

theorem div_262144 (n : ℕ) : n / 262144 = n / 64 / 64 / 64 := by
  rw [Nat.div_div_eq_div_mul, Nat.div_div_eq_div_mul]

theorem decodeUtf8_utf8Nat_two {n : ℕ} (h : 0x80 ≤ n ∧ n ≤ 0x7ff) (rest : Bytes) :
    decodeUtf8 (UInt8.ofNat (n / 64 % 32 + 0xc0) :: UInt8.ofNat (n % 64 + 0x80) :: rest) =
      (Char.ofNat n :: ·) <$> decodeUtf8 rest := by
  obtain ⟨a, b, hb, rfl⟩ : ∃ a b, b < 64 ∧ n = 64 * a + b :=
    ⟨n / 64, n % 64, Nat.mod_lt _ (by decide), (Nat.div_add_mod n 64).symm⟩
  have ha : a < 32 := by omega
  rw [div_digit hb, mod_digit hb, Nat.mod_eq_of_lt ha]
  have h0 : (UInt8.ofNat (a + 0xc0)).toNat = a + 0xc0 := toNat_uint8_ofNat (by omega)
  have h1 : (UInt8.ofNat (b + 0x80)).toNat = b + 0x80 := toNat_uint8_ofNat (by omega)
  rw [decodeUtf8.eq_3 _ _ _ ((leadOf_range _).2.1.mpr (by omega)),
    if_pos (by rw [InRange, h1]; omega), h0, h1, add_mod_of_lt ha (by decide),
    add_mod_of_lt hb (by decide)]
  exact map_cons_ofNat (by omega) _

/-- Three bytes: a code point past `07FF` and outside the surrogates passes the `E0` and `ED`
bounds. -/
theorem decodeUtf8_utf8Nat_three {n : ℕ} (h : 0x800 ≤ n ∧ n ≤ 0xffff) (hs : n < 0xD800 ∨ 0xDFFF < n)
    (rest : Bytes) :
    decodeUtf8 (UInt8.ofNat (n / 4096 % 16 + 0xe0) :: UInt8.ofNat (n / 64 % 64 + 0x80) ::
      UInt8.ofNat (n % 64 + 0x80) :: rest) = (Char.ofNat n :: ·) <$> decodeUtf8 rest := by
  obtain ⟨a, b, c, hb, hc, rfl⟩ : ∃ a b c, b < 64 ∧ c < 64 ∧ n = 64 * (64 * a + b) + c :=
    ⟨n / 64 / 64, n / 64 % 64, n % 64, Nat.mod_lt _ (by decide), Nat.mod_lt _ (by decide),
      by rw [Nat.div_add_mod (n / 64), Nat.div_add_mod]⟩
  have ha : a < 16 := by omega
  simp only [div_4096, div_digit hc, div_digit hb, mod_digit hc, mod_digit hb, Nat.mod_eq_of_lt ha]
  have h0 : (UInt8.ofNat (a + 0xe0)).toNat = a + 0xe0 := toNat_uint8_ofNat (by omega)
  have h1 : (UInt8.ofNat (b + 0x80)).toNat = b + 0x80 := toNat_uint8_ofNat (by omega)
  have h2 : (UInt8.ofNat (c + 0x80)).toNat = c + 0x80 := toNat_uint8_ofNat (by omega)
  rw [decodeUtf8.eq_4 _ _ _ _ ((leadOf_range _).2.2.1.mpr (by omega)),
    if_pos ⟨by rw [InRange, h0, h1, secondRange]; omega, by rw [InRange, h2]; omega⟩, h0, h1, h2,
    add_mod_of_lt ha (by decide), add_mod_of_lt hb (by decide), add_mod_of_lt hc (by decide)]
  exact map_cons_ofNat (by omega) _

/-- Four bytes: a code point from `10000` to `10FFFF` passes the `F0` and `F4` bounds. -/
theorem decodeUtf8_utf8Nat_four {n : ℕ} (h : 0x10000 ≤ n ∧ n < 0x110000) (rest : Bytes) :
    decodeUtf8 (UInt8.ofNat (n / 262144 % 8 + 0xf0) :: UInt8.ofNat (n / 4096 % 64 + 0x80) ::
      UInt8.ofNat (n / 64 % 64 + 0x80) :: UInt8.ofNat (n % 64 + 0x80) :: rest) =
      (Char.ofNat n :: ·) <$> decodeUtf8 rest := by
  obtain ⟨a, b, c, d, hb, hc, hd, rfl⟩ :
      ∃ a b c d, b < 64 ∧ c < 64 ∧ d < 64 ∧ n = 64 * (64 * (64 * a + b) + c) + d :=
    ⟨n / 64 / 64 / 64, n / 64 / 64 % 64, n / 64 % 64, n % 64, Nat.mod_lt _ (by decide),
      Nat.mod_lt _ (by decide), Nat.mod_lt _ (by decide),
      by rw [Nat.div_add_mod (n / 64 / 64), Nat.div_add_mod (n / 64), Nat.div_add_mod]⟩
  have ha : a < 8 := by omega
  simp only [div_262144, div_4096, div_digit hd, div_digit hc, div_digit hb, mod_digit hd,
    mod_digit hc, mod_digit hb, Nat.mod_eq_of_lt ha]
  have h0 : (UInt8.ofNat (a + 0xf0)).toNat = a + 0xf0 := toNat_uint8_ofNat (by omega)
  have h1 : (UInt8.ofNat (b + 0x80)).toNat = b + 0x80 := toNat_uint8_ofNat (by omega)
  have h2 : (UInt8.ofNat (c + 0x80)).toNat = c + 0x80 := toNat_uint8_ofNat (by omega)
  have h3 : (UInt8.ofNat (d + 0x80)).toNat = d + 0x80 := toNat_uint8_ofNat (by omega)
  rw [decodeUtf8.eq_5 _ _ _ _ _ ((leadOf_range _).2.2.2.mpr (by omega)),
    if_pos ⟨by rw [InRange, h0, h1, secondRange]; omega, by rw [InRange, h2]; omega,
      by rw [InRange, h3]; omega⟩, h0, h1, h2, h3, add_mod_of_lt ha (by decide),
    add_mod_of_lt hb (by decide), add_mod_of_lt hc (by decide), add_mod_of_lt hd (by decide)]
  exact map_cons_ofNat (by omega) _

/-- The library's bytes for a character, from its code point. -/
theorem utf8EncodeChar_eq_map (c : Char) :
    String.utf8EncodeChar c = (utf8Nat c.toNat).map UInt8.ofNat := by
  rw [← map_toNat_utf8EncodeChar, List.map_map]
  conv_lhs => rw [← List.map_id (String.utf8EncodeChar c)]
  exact List.map_congr_left fun x _ => (uint8_ofNat_toNat x).symm

/-- The decoder takes one character's bytes back to the character, and goes on with the rest. -/
theorem decodeUtf8_utf8EncodeChar_append (c : Char) (rest : Bytes) :
    decodeUtf8 (String.utf8EncodeChar c ++ rest) = (c :: ·) <$> decodeUtf8 rest := by
  have hv : c.toNat < 0xD800 ∨ 0xDFFF < c.toNat ∧ c.toNat < 0x110000 := c.valid
  rw [utf8EncodeChar_eq_map]
  conv_rhs => rw [← Char.ofNat_toNat c]
  unfold utf8Nat
  split_ifs with h1 h2 h3
  · have h0 : (UInt8.ofNat c.toNat).toNat = c.toNat := toNat_uint8_ofNat (by omega)
    rw [List.map_singleton, List.singleton_append,
      decodeUtf8.eq_2 _ _ ((leadOf_range _).1.mpr (by omega)), h0]
  · exact decodeUtf8_utf8Nat_two ⟨by omega, h2⟩ rest
  · exact decodeUtf8_utf8Nat_three ⟨by omega, h3⟩ (by omega) rest
  · exact decodeUtf8_utf8Nat_four ⟨by omega, by omega⟩ rest

/-- **Decoding is self-synchronising**: after the encoding of any text, the decoder is where it
started, whatever bytes follow. -/
theorem decodeUtf8_encodeUtf8_append (cs : List Char) (rest : Bytes) :
    decodeUtf8 (encodeUtf8 cs ++ rest) = (cs ++ ·) <$> decodeUtf8 rest := by
  induction cs with
  | nil =>
    rw [encodeUtf8_nil, List.nil_append]
    cases decodeUtf8 rest <;> rfl
  | cons c cs ih =>
    rw [encodeUtf8_cons, List.append_assoc, decodeUtf8_utf8EncodeChar_append, ih]
    cases decodeUtf8 rest <;> rfl

/-- **The UTF-8 round trip**: every text decodes from its encoding. -/
theorem decodeUtf8_encodeUtf8 (cs : List Char) : decodeUtf8 (encodeUtf8 cs) = some cs := by
  simpa [decodeUtf8.eq_1] using decodeUtf8_encodeUtf8_append cs []

/-- Bytes that decode, then any bytes: the decoding of the two is the two decodings. -/
theorem decodeUtf8_append {b : Bytes} {cs : List Char} (h : decodeUtf8 b = some cs)
    (rest : Bytes) : decodeUtf8 (b ++ rest) = (cs ++ ·) <$> decodeUtf8 rest := by
  rw [← encodeUtf8_of_decodeUtf8 h, decodeUtf8_encodeUtf8_append]

/-- Only `'\r'` puts a `0x0D` byte into an encoding. -/
theorem cr_mem_encodeUtf8 (cs : List Char) : (13 : UInt8) ∈ encodeUtf8 cs ↔ '\r' ∈ cs := by
  have hc : ∀ c : Char, (13 : UInt8) ∈ String.utf8EncodeChar c ↔ c = '\r' := fun c => by
    rw [← mem_utf8Nat, ← map_toNat_utf8EncodeChar, List.mem_map]
    exact ⟨fun h => ⟨13, h, rfl⟩, fun ⟨x, hx, h13⟩ => UInt8.toNat.inj (b := 13) h13 ▸ hx⟩
  simp only [encodeUtf8, List.mem_flatMap, hc, exists_eq_right]

/-! ## Universal newlines -/

/-- `text.replace("\r\n", "\n")` — occurrences found left to right, without overlap. -/
def replaceCrlf : List Char → List Char
  | '\r' :: '\n' :: cs => '\n' :: replaceCrlf cs
  | c :: cs => c :: replaceCrlf cs
  | [] => []

/-- `text.replace("\r", "\n")`. -/
def replaceCr (cs : List Char) : List Char := cs.map fun c => if c = '\r' then '\n' else c

/-- **Universal newlines**: `\r\n`, then every remaining `\r`, become `\n`. -/
def translateNewlines (cs : List Char) : List Char := replaceCr (replaceCrlf cs)

theorem cr_not_mem_translateNewlines (cs : List Char) : '\r' ∉ translateNewlines cs := by
  simp only [translateNewlines, replaceCr, List.mem_map, not_exists, not_and]
  intro c _
  split_ifs with h
  · decide
  · exact h

theorem replaceCrlf_of_cr_not_mem {cs : List Char} (h : '\r' ∉ cs) : replaceCrlf cs = cs := by
  induction cs using replaceCrlf.induct with
  | case1 cs _ => simp at h
  | case2 c cs hne ih =>
    rw [replaceCrlf.eq_2 c cs hne, ih (fun hm => h (List.mem_cons_of_mem c hm))]
  | case3 => rfl

theorem translateNewlines_of_cr_not_mem {cs : List Char} (h : '\r' ∉ cs) :
    translateNewlines cs = cs := by
  rw [translateNewlines, replaceCrlf_of_cr_not_mem h, replaceCr]
  exact (List.map_congr_left fun c hc => if_neg (by rintro rfl; exact h hc)).trans (List.map_id' cs)

/-- Text mode gives text back unchanged exactly when it holds no carriage return. -/
theorem translateNewlines_eq_self_iff (cs : List Char) : translateNewlines cs = cs ↔ '\r' ∉ cs :=
  ⟨fun h hc => cr_not_mem_translateNewlines cs (by rwa [h]), translateNewlines_of_cr_not_mem⟩

/-- `text.replace("\r\n", "\n")` of two texts is the two replacements, unless a `\r` ending
the first meets a `\n` starting the second. -/
theorem replaceCrlf_append {xs ys : List Char}
    (h : xs.getLast? = some '\r' → ys.head? ≠ some '\n') :
    replaceCrlf (xs ++ ys) = replaceCrlf xs ++ replaceCrlf ys := by
  induction xs using replaceCrlf.induct with
  | case1 cs ih =>
    rw [List.cons_append, List.cons_append, replaceCrlf.eq_1, replaceCrlf.eq_1, List.cons_append,
      ih fun hc => h (by simp [List.getLast?_cons, hc])]
  | case2 c cs hne ih =>
    have hne' : ∀ t, c = '\r' → cs ++ ys = '\n' :: t → False := by
      rintro t rfl hcs
      cases cs with
      | nil => exact h rfl (by rw [← List.nil_append ys, hcs]; rfl)
      | cons d cs => cases hcs; exact hne cs rfl rfl
    rw [List.cons_append, replaceCrlf.eq_2 c _ hne', replaceCrlf.eq_2 c cs hne, List.cons_append,
      ih fun hc => h (by cases cs <;> simp_all [List.getLast?_cons])]
  | case3 => rfl
/-- **Universal newlines over a concatenation**: the two translations, except that a `\r` ending the
first and a `\n` starting the second read as one newline. -/
theorem translateNewlines_append (t s : List Char) :
    translateNewlines (t ++ s) = translateNewlines t ++
      if t.getLast? = some '\r' ∧ s.head? = some '\n' then (translateNewlines s).tail
      else translateNewlines s := by
  split_ifs with hb
  · obtain ⟨⟨t', rfl⟩, hs⟩ := And.imp_left List.getLast?_eq_some_iff.mp hb
    obtain ⟨s', rfl⟩ : ∃ s', s = '\n' :: s' := by
      cases s with
      | nil => cases hs
      | cons x s' => cases hs; exact ⟨s', rfl⟩
    have hcr : replaceCrlf ('\n' :: s') = '\n' :: replaceCrlf s' := replaceCrlf.eq_2 _ _ (by simp)
    have hr : replaceCrlf ['\r'] = ['\r'] := replaceCrlf.eq_2 _ _ (by simp)
    simp only [translateNewlines, List.append_assoc, List.singleton_append,
      @replaceCrlf_append t' ('\r' :: '\n' :: s') (by simp),
      @replaceCrlf_append t' ['\r'] (by simp), replaceCrlf.eq_1, hcr, hr, replaceCr]
    simp
  · simp only [translateNewlines, replaceCr, replaceCrlf_append fun hl hs => hb ⟨hl, hs⟩,
      List.map_append]

/-! ## Text mode -/

/-- **A read in text mode** — `subprocess.run(..., text=True).stdout`, or
`open(path, 'r').read()`: the text, or `none` where decoding raises `UnicodeDecodeError`.  A write
in text mode, `open(path, 'w').write(text)`, puts `encodeUtf8 text` on disk. -/
def readText (b : Bytes) : Option (List Char) := translateNewlines <$> decodeUtf8 b

/-- **What text mode preserves**: bytes read in text mode and written back are unchanged exactly
when they are well-formed UTF-8 holding no carriage return. -/
theorem encodeUtf8_readText_eq_self_iff (b : Bytes) :
    encodeUtf8 <$> readText b = some b ↔ (decodeUtf8 b).isSome ∧ (13 : UInt8) ∉ b := by
  constructor
  · intro h
    cases hd : decodeUtf8 b with
    | none => simp [readText, hd] at h
    | some cs =>
      simp only [readText, hd, Option.map_eq_map, Option.map_some', Option.some.injEq] at h
      refine ⟨rfl, fun h13 => cr_not_mem_translateNewlines cs ?_⟩
      rwa [← h, cr_mem_encodeUtf8] at h13
  · rintro ⟨hv, h13⟩
    obtain ⟨cs, hd⟩ := Option.isSome_iff_exists.mp hv
    have he := encodeUtf8_of_decodeUtf8 hd
    rw [← he, cr_mem_encodeUtf8] at h13
    simp [readText, hd, translateNewlines_of_cr_not_mem h13, he]

example : encodeUtf8 <$> readText [104, 105, 13, 10] = some [104, 105, 10] := by decide
example : readText [0xFF, 10] = none := by decide

theorem readText_eq_none_iff {b : Bytes} : readText b = none ↔ decodeUtf8 b = none := by
  simp [readText]

/-- Text appended to well-formed bytes reads back as the translation of the two texts joined. -/
theorem readText_append_encodeUtf8 {b : Bytes} {t : List Char} (h : decodeUtf8 b = some t)
    (cs : List Char) : readText (b ++ encodeUtf8 cs) = some (translateNewlines (t ++ cs)) := by
  rw [readText, decodeUtf8_append h, ← List.append_nil (encodeUtf8 cs), decodeUtf8_encodeUtf8_append,
    decodeUtf8.eq_1]
  simp

/-- Text written in text mode reads back with its newlines translated. -/
theorem readText_encodeUtf8 (cs : List Char) : readText (encodeUtf8 cs) = some (translateNewlines cs) := by
  simpa using readText_append_encodeUtf8 (b := []) rfl cs

/-- Once bytes have decoded, writing their text back gives them unchanged exactly when they hold no
carriage return. -/
theorem encodeUtf8_eq_self_of_readText {b : Bytes} {t : List Char} (ht : readText b = some t) :
    encodeUtf8 t = b ↔ (13 : UInt8) ∉ b := by
  have hd : (decodeUtf8 b).isSome := by
    cases h : decodeUtf8 b <;> simp_all [readText]
  simpa [ht, hd] using encodeUtf8_readText_eq_self_iff b

/-- `str(UnicodeDecodeError)`, up to the offending byte and position. -/
def unicodeDecodeError : PyExc := ⟨.exception "UnicodeDecodeError", "'utf-8' codec can't decode bytes"⟩

/-- `f.read()` on a file opened with `open(path, 'r')`, or a pipe captured with `text=True`, as a
statement: the text, or a `UnicodeDecodeError`. -/
def readFile {ρ σ : Type} (b : Bytes) : PyM ρ σ (List Char) := fun _ s =>
  match readText b with
  | some t => .ok t s
  | none => .raised unicodeDecodeError s

theorem readFile_eq_ok {ρ σ : Type} {b : Bytes} {r : ρ} {s s' : σ} {t : List Char} :
    readFile b r s = .ok t s' ↔ readText b = some t ∧ s' = s := by
  unfold readFile
  split <;> simp_all [eq_comm]

theorem stateless_readFile {ρ σ : Type} (b : Bytes) : PyM.Stateless (readFile b : PyM ρ σ (List Char)) :=
  fun _ _ => by
    unfold readFile
    split <;> rfl

theorem readFile_of_some {ρ σ : Type} {b : Bytes} {t : List Char} (h : readText b = some t) (r : ρ)
    (s : σ) : readFile b r s = .ok t s := by
  simp [readFile, h]

theorem readFile_of_none {ρ σ : Type} {b : Bytes} (h : readText b = none) (r : ρ) (s : σ) :
    readFile b r s = .raised unicodeDecodeError s := by
  simp [readFile, h]

end HolonAdapter
