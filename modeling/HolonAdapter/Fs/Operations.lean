import HolonAdapter.Fs.Mkdir
import HolonAdapter.Python.Json

/-!
# Fs/Operations — `FileSystemOperations` (fs_helpers.py): what its calls do to a tree

    write_text(p, c) ; read_text(p)   ⟶  c, its newlines translated
    any calls, one after another      ⟶  still a tree, no path removed or changed in kind;
                                         the call that raised did at most part of its work

`FileSystemOperations` wraps `open`, `os.makedirs` and `os.path.exists` for the adapter.  Its
methods are transcribed onto the store of `Fs/Store`; what `yaml` and `json` make of text is the
host's (`FsHost`).  A write opens its file, which fails, if it does, before anything changes; then
it writes, which fails, if the file has no room for the bytes, with the file holding part of them.
The writes and the directories that `Run/World` records are, on a store that limits no output
file, what the calls here do.

* `writeWith_spec`, `appendText_spec` — each write, in each of its cases;
* `readText_writeText`, `readText_appendText` — what a read finds after a write, and after an
  append;
* `runOps_extends`, `runOps_raised` — over any sequence of calls: the tree kept, and what the call
  that raised may have done;
* `writes_refine` — `run_adapter`'s directories and writes, as `Run/World` has them, on the file
  system.
-/

namespace HolonAdapter

/-- What `yaml` and `json` make of text, and the text `json.dump` writes. -/
structure FsHost where
  /-- `yaml.safe_load`: the value, or the exception the parser raises. -/
  yamlLoad : List Char → Except PyExc Json
  /-- `json.load`. -/
  jsonLoad : List Char → Except PyExc Json
  /-- The text `json.dump(data, f, indent=indent)` writes. -/
  jsonDump : Json → ℕ → List Char

/-- A host whose loaders find `null` and whose `json.dump` prints nothing. -/
def sampleHost : FsHost := ⟨fun _ => .ok .null, fun _ => .ok .null, fun _ _ => []⟩

namespace FileSystemOperations

/-- `exists(path)`: `os.path.exists`, which is `os.stat` succeeding. -/
def existsPath (p : FsPath) : PyM FsHost Store Bool := do
  pure ((← PyM.get).stat p).isSome

/-- `makedirs(path, exist_ok)`. -/
def makedirs (p : FsPath) (existOk : Bool) : PyM FsHost Store Unit :=
  HolonAdapter.makedirs p existOk

/-- `read_text(path)`: `open(path, 'r')`, then `f.read()`. -/
def readText (p : FsPath) : PyM FsHost Store (List Char) := do
  let b ← openRead p
  readFile b

/-- `with open(path, 'r') as f: return load(f)`, for a loader of the host. -/
def readLoad (load : FsHost → List Char → Except PyExc Json) (p : FsPath) :
    PyM FsHost Store Json := do
  let text ← readText p
  match load (← PyM.read) text with
  | .ok v => pure v
  | .error e => PyM.raise e

/-- `read_yaml(path)`: `yaml.safe_load(f)`. -/
def readYaml (p : FsPath) : PyM FsHost Store Json := readLoad FsHost.yamlLoad p

/-- `read_json(path)`: `json.load(f)`. -/
def readJson (p : FsPath) : PyM FsHost Store Json := readLoad FsHost.jsonLoad p

/-- `with open(path, 'w') as f:` and one write of `text`. -/
def writeWith (p : FsPath) (text : List Char) : PyM FsHost Store Unit := do
  openTruncate p
  writeBytes p (encodeUtf8 text)

/-- `write_text(path, content)`: `f.write(content)`. -/
def writeText (p : FsPath) (content : String) : PyM FsHost Store Unit := writeWith p content.data

/-- `write_json(path, data, indent)`: `json.dump(data, f, indent=indent)`. -/
def writeJson (p : FsPath) (data : Json) (indent : ℕ) : PyM FsHost Store Unit := do
  writeWith p ((← PyM.read).jsonDump data indent)

/-- `append_text(path, content)`: `open(path, 'a')`, then `f.write(content)`. -/
def appendText (p : FsPath) (content : String) : PyM FsHost Store Unit := do
  openAppend p
  writeBytes p (encodeUtf8 content.data)

end FileSystemOperations

/-- A call of a `FileSystemOperations` method that acts on files, with its arguments. -/
inductive Op where
  | existsPath (p : FsPath)
  | makedirs (p : FsPath) (existOk : Bool)
  | readText (p : FsPath)
  | writeText (p : FsPath) (content : String)
  | readYaml (p : FsPath)
  | readJson (p : FsPath)
  | writeJson (p : FsPath) (data : Json) (indent : ℕ)
  | appendText (p : FsPath) (content : String)

/-- The call, its result set aside. -/
def Op.run : Op → PyM FsHost Store Unit
  | .existsPath p => do let _ ← FileSystemOperations.existsPath p; pure ()
  | .makedirs p existOk => FileSystemOperations.makedirs p existOk
  | .readText p => do let _ ← FileSystemOperations.readText p; pure ()
  | .writeText p content => FileSystemOperations.writeText p content
  | .readYaml p => do let _ ← FileSystemOperations.readYaml p; pure ()
  | .readJson p => do let _ ← FileSystemOperations.readJson p; pure ()
  | .writeJson p data indent => FileSystemOperations.writeJson p data indent
  | .appendText p content => FileSystemOperations.appendText p content

/-- Calls one after another: the first that raises ends the sequence. -/
def runOps : List Op → PyM FsHost Store Unit
  | [] => pure ()
  | op :: ops => do
    op.run
    runOps ops

namespace Store

/-- The file at `p` has room for `k` bytes. -/
def hasRoom (s : Store) (p : FsPath) (k : ℕ) : Bool :=
  match s.room p with
  | some (n, _) => decide (k ≤ n)
  | none => true

@[simp] theorem hasRoom_set (s : Store) (p q : FsPath) (n : Node) (k : ℕ) :
    (s.set p n).hasRoom q k = s.hasRoom q k := rfl

/-- The bytes of the regular file at a path. -/
def fileAt (s : Store) (p : FsPath) : Option Bytes :=
  match s.get p with
  | some (.file b) => some b
  | _ => none

/-- A node put twice at one path: only the second counts. -/
theorem set_set_equiv (s : Store) (p : FsPath) (n m : Node) :
    ((s.set p n).set p m).Equiv (s.set p m) :=
  ⟨fun q => by simp only [get_set]; split_ifs <;> rfl, rfl, rfl⟩

end Store

/-! ## `open` and `f.write`, case by case -/

section OpenLemmas

variable {ρ : Type} {s : Store} {p : FsPath} {r : ρ}

theorem openRead_of_file {b : Bytes} (hn : hasNul p = false) (hpe : s.parentError p = none)
    (h : s.get p = some (.file b)) : openRead p r s = .ok b s := by
  simp [openRead, PyM.bind_apply, resolve_of_none hn hpe, h]

theorem openTruncate_of_nul (hn : hasNul p = true) : openTruncate p r s = .raised nulError s := by
  rw [openTruncate, PyM.bind_of_raised (resolve_of_nul hn)]

theorem openTruncate_of_error {e : Errno} (hn : hasNul p = false) (hpe : s.parentError p = some e) :
    openTruncate p r s = .raised (e.exc p) s := by
  rw [openTruncate, PyM.bind_of_raised (resolve_of_error hn hpe)]

theorem openTruncate_of_dir (hn : hasNul p = false) (hpe : s.parentError p = none)
    (h : s.get p = some .dir) : openTruncate p r s = .raised (Errno.eisdir.exc p) s := by
  simp [openTruncate, PyM.bind_apply, resolve_of_none hn hpe, h]

/-- `open(path, 'w')` past resolution, on no directory: the refusal, or an empty file. -/
theorem openTruncate_of_not_dir (hn : hasNul p = false) (hpe : s.parentError p = none)
    (h : s.get p ≠ some .dir) :
    openTruncate p r s = match s.refusal p with
      | some e => .raised (e.errno.exc p) s
      | none => .ok () (s.set p (.file [])) := by
  rw [openTruncate, PyM.bind_of_ok (resolve_of_none hn hpe), PyM.bind_apply, PyM.get_apply]
  dsimp only
  match hg : s.get p with
  | some .dir => exact absurd hg h
  | some (.file _) => cases s.refusal p <;> rfl
  | none => cases s.refusal p <;> rfl

/-- **What `open(path, 'w')` can do**: raise, changing nothing — `ValueError` for a NUL byte, or
an `OSError` naming the path — or leave an empty file at a path that resolves to no directory and
is not refused. -/
theorem openTruncate_cases (p : FsPath) (r : ρ) (s : Store) :
    (hasNul p = true ∧ openTruncate p r s = .raised nulError s) ∨
    (∃ e : Errno, openTruncate p r s = .raised (e.exc p) s) ∨
    (hasNul p = false ∧ s.parentError p = none ∧ s.get p ≠ some .dir ∧ s.refusal p = none ∧
      openTruncate p r s = .ok () (s.set p (.file []))) := by
  cases hn : hasNul p
  · cases hpe : s.parentError p with
    | some e => exact .inr (.inl ⟨e, openTruncate_of_error hn hpe⟩)
    | none =>
      by_cases hd : s.get p = some .dir
      · exact .inr (.inl ⟨_, openTruncate_of_dir hn hpe hd⟩)
      · have ho := openTruncate_of_not_dir (r := r) hn hpe hd
        cases hr : s.refusal p with
        | some e => exact .inr (.inl ⟨_, by rw [ho, hr]⟩)
        | none => exact .inr (.inr ⟨rfl, rfl, hd, rfl, by rw [ho, hr]⟩)
  · exact .inl ⟨rfl, openTruncate_of_nul hn⟩

theorem openAppend_of_nul (hn : hasNul p = true) : openAppend p r s = .raised nulError s := by
  rw [openAppend, PyM.bind_of_raised (resolve_of_nul hn)]

theorem openAppend_of_error {e : Errno} (hn : hasNul p = false) (hpe : s.parentError p = some e) :
    openAppend p r s = .raised (e.exc p) s := by
  rw [openAppend, PyM.bind_of_raised (resolve_of_error hn hpe)]

theorem openAppend_of_dir (hn : hasNul p = false) (hpe : s.parentError p = none)
    (h : s.get p = some .dir) : openAppend p r s = .raised (Errno.eisdir.exc p) s := by
  simp [openAppend, PyM.bind_apply, resolve_of_none hn hpe, h]

theorem openAppend_of_file {b : Bytes} (hn : hasNul p = false) (hpe : s.parentError p = none)
    (h : s.get p = some (.file b)) :
    openAppend p r s = match s.refusal p with
      | some e => .raised (e.errno.exc p) s
      | none => .ok () s := by
  rw [openAppend, PyM.bind_of_ok (resolve_of_none hn hpe), PyM.bind_apply, PyM.get_apply]
  dsimp only
  rw [h]
  cases s.refusal p <;> rfl

theorem openAppend_of_none (hn : hasNul p = false) (hpe : s.parentError p = none)
    (h : s.get p = none) :
    openAppend p r s = match s.refusal p with
      | some e => .raised (e.errno.exc p) s
      | none => .ok () (s.set p (.file [])) := by
  rw [openAppend, PyM.bind_of_ok (resolve_of_none hn hpe), PyM.bind_apply, PyM.get_apply]
  dsimp only
  rw [h]
  cases s.refusal p <;> rfl

/-- **What `open(path, 'a')` can do**: raise, changing nothing — `ValueError` for a NUL byte, or
an `OSError` naming the path — or, at a path that resolves and is not refused, open the file
there, creating it empty when it is missing. -/
theorem openAppend_cases (p : FsPath) (r : ρ) (s : Store) :
    (hasNul p = true ∧ openAppend p r s = .raised nulError s) ∨
    (∃ e : Errno, openAppend p r s = .raised (e.exc p) s) ∨
    (hasNul p = false ∧ s.parentError p = none ∧ s.refusal p = none ∧
      ((∃ b, s.get p = some (.file b) ∧ openAppend p r s = .ok () s) ∨
        (s.get p = none ∧ openAppend p r s = .ok () (s.set p (.file []))))) := by
  cases hn : hasNul p
  · cases hpe : s.parentError p with
    | some e => exact .inr (.inl ⟨e, openAppend_of_error hn hpe⟩)
    | none =>
      match hg : s.get p with
      | some .dir => exact .inr (.inl ⟨_, openAppend_of_dir hn hpe hg⟩)
      | some (.file b) =>
        have ho := openAppend_of_file (r := r) hn hpe hg
        cases hr : s.refusal p with
        | some e => exact .inr (.inl ⟨_, by rw [ho, hr]⟩)
        | none => exact .inr (.inr ⟨rfl, rfl, rfl, .inl ⟨b, rfl, by rw [ho, hr]⟩⟩)
      | none =>
        have ho := openAppend_of_none (r := r) hn hpe hg
        cases hr : s.refusal p with
        | some e => exact .inr (.inl ⟨_, by rw [ho, hr]⟩)
        | none => exact .inr (.inr ⟨rfl, rfl, rfl, .inr ⟨rfl, by rw [ho, hr]⟩⟩)
  · exact .inl ⟨rfl, openAppend_of_nul hn⟩

theorem writeBytes_of_file {b old : Bytes} (h : s.get p = some (.file old))
    (hroom : s.hasRoom p (old.length + b.length) = true) :
    writeBytes p b r s = .ok () (s.set p (.file (old ++ b))) := by
  simp only [writeBytes, h]
  unfold Store.hasRoom at hroom
  split
  · next n e hr =>
    rw [hr, decide_eq_true_eq] at hroom
    rw [if_pos hroom]
  · rfl

theorem writeBytes_of_full {b old : Bytes} {n : ℕ} {e : Errno} (h : s.get p = some (.file old))
    (hroom : s.room p = some (n, e)) (hlt : n < old.length + b.length) :
    writeBytes p b r s = .raised e.excNoPath (s.set p (.file (old ++ b.take (n - old.length)))) := by
  simp only [writeBytes, h, hroom, if_neg (show ¬old.length + b.length ≤ n by omega)]

/-- **What `f.write` leaves**: the store, or the file it writes to with a prefix of the bytes at
its end. -/
theorem writeBytes_state (p : FsPath) (b : Bytes) (r : ρ) (s : Store) :
    (writeBytes p b r s).state = s ∨ ∃ old b', s.get p = some (.file old) ∧ b' <+: b ∧
      (writeBytes p b r s).state = s.set p (.file (old ++ b')) := by
  unfold writeBytes
  split
  · rename_i old hg
    refine .inr ⟨old, ?_⟩
    split
    · split
      · exact ⟨b, hg, List.prefix_rfl, rfl⟩
      · exact ⟨_, hg, List.take_prefix _ _, rfl⟩
    · exact ⟨b, hg, List.prefix_rfl, rfl⟩
  · exact .inl rfl

end OpenLemmas

/-! ## The writes and the reads

A write replaces the file's bytes by the UTF-8 encoding of the text, creating the file when it is
missing; an append adds the encoding at the end.  Either fails, changing nothing, when the path
has a NUL byte, does not resolve, is a directory or is refused; and fails with the file holding
part of the bytes when the file has no room for them.  Reading back goes through text mode, which
translates newlines. -/

section Specs

variable {s : Store} {p : FsPath} {r : FsHost}

theorem writeWith_of_ok (hn : hasNul p = false) (hpe : s.parentError p = none)
    (hd : s.get p ≠ some .dir) (hr : s.refusal p = none) (text : List Char)
    (hroom : s.hasRoom p (encodeUtf8 text).length = true) :
    FileSystemOperations.writeWith p text r s =
      .ok () ((s.set p (.file [])).set p (.file ([] ++ encodeUtf8 text))) := by
  rw [FileSystemOperations.writeWith, PyM.bind_of_ok (by rw [openTruncate_of_not_dir hn hpe hd, hr]),
    writeBytes_of_file (Store.get_set_self _ _ _) (by rwa [Store.hasRoom_set, List.length_nil, zero_add])]

/-- **`write_text` and `write_json`**, writing `text`: where the path resolves to no directory and
is not refused, the file holds exactly the UTF-8 encoding afterwards, nothing else changed — or,
where the file has room for fewer bytes, the first of them, with the write's `OSError`; otherwise
`ValueError` for a NUL byte, `IsADirectoryError`, the refusal or the error of resolution naming
the path, and nothing changed. -/
theorem writeWith_spec (p : FsPath) (text : List Char) (r : FsHost) :
    (hasNul p = false → s.parentError p = none → s.get p ≠ some .dir → s.refusal p = none →
      s.hasRoom p (encodeUtf8 text).length = true →
      ∃ t, FileSystemOperations.writeWith p text r s = .ok () t ∧
        t.Equiv (s.set p (.file (encodeUtf8 text)))) ∧
    (∀ n e, hasNul p = false → s.parentError p = none → s.get p ≠ some .dir → s.refusal p = none →
      s.room p = some (n, e) → n < (encodeUtf8 text).length →
      ∃ t, FileSystemOperations.writeWith p text r s = .raised e.excNoPath t ∧
        t.Equiv (s.set p (.file ((encodeUtf8 text).take n)))) ∧
    (hasNul p = false → s.parentError p = none → s.get p = some .dir →
      FileSystemOperations.writeWith p text r s = .raised (Errno.eisdir.exc p) s) ∧
    (∀ e : Refusal, hasNul p = false → s.parentError p = none → s.get p ≠ some .dir →
      s.refusal p = some e →
      FileSystemOperations.writeWith p text r s = .raised (e.errno.exc p) s) ∧
    (∀ e, hasNul p = false → s.parentError p = some e →
      FileSystemOperations.writeWith p text r s = .raised (e.exc p) s) ∧
    (hasNul p = true → FileSystemOperations.writeWith p text r s = .raised nulError s) := by
  refine ⟨fun hn hpe hd hr hroom => ⟨_, writeWith_of_ok hn hpe hd hr text hroom,
      Store.set_set_equiv _ _ _ _⟩,
    fun n e hn hpe hd hr hroom hlt => ⟨_, ?_, Store.set_set_equiv s p (.file []) _⟩,
    fun hn hpe hd => ?_, fun e hn hpe hd hr => ?_, fun e hn hpe => ?_, fun hn => ?_⟩
  · rw [FileSystemOperations.writeWith, PyM.bind_of_ok (by rw [openTruncate_of_not_dir hn hpe hd, hr]),
      writeBytes_of_full (Store.get_set_self _ _ _) hroom (by rwa [List.length_nil, zero_add]),
      List.nil_append, List.length_nil, Nat.sub_zero]
  · rw [FileSystemOperations.writeWith, PyM.bind_of_raised (openTruncate_of_dir hn hpe hd)]
  · rw [FileSystemOperations.writeWith, PyM.bind_of_raised (by rw [openTruncate_of_not_dir hn hpe hd, hr])]
  · rw [FileSystemOperations.writeWith, PyM.bind_of_raised (openTruncate_of_error hn hpe)]
  · rw [FileSystemOperations.writeWith, PyM.bind_of_raised (openTruncate_of_nul hn)]

theorem appendText_of_file {b : Bytes} (hn : hasNul p = false) (hpe : s.parentError p = none)
    (hf : s.get p = some (.file b)) (hr : s.refusal p = none) (content : String)
    (hroom : s.hasRoom p (b.length + (encodeUtf8 content.data).length) = true) :
    FileSystemOperations.appendText p content r s =
      .ok () (s.set p (.file (b ++ encodeUtf8 content.data))) := by
  rw [FileSystemOperations.appendText, PyM.bind_of_ok (by rw [openAppend_of_file hn hpe hf, hr]),
    writeBytes_of_file hf hroom]

theorem appendText_of_none (hn : hasNul p = false) (hpe : s.parentError p = none)
    (hg : s.get p = none) (hr : s.refusal p = none) (content : String)
    (hroom : s.hasRoom p (encodeUtf8 content.data).length = true) :
    FileSystemOperations.appendText p content r s =
      .ok () ((s.set p (.file [])).set p (.file ([] ++ encodeUtf8 content.data))) := by
  rw [FileSystemOperations.appendText, PyM.bind_of_ok (by rw [openAppend_of_none hn hpe hg, hr]),
    writeBytes_of_file (Store.get_set_self _ _ _) (by rwa [Store.hasRoom_set, List.length_nil, zero_add])]

/-- **`append_text`**: where the path resolves and is not refused, a file there gets the UTF-8
encoding of the text at its end, a missing one is created holding it — or, where the file has
room for fewer bytes, gets the first of them, with the write's `OSError`; otherwise `ValueError`
for a NUL byte, `IsADirectoryError`, the refusal or the error of resolution naming the path, and
nothing changed. -/
theorem appendText_spec (p : FsPath) (content : String) (r : FsHost) :
    (∀ b, hasNul p = false → s.parentError p = none → s.get p = some (.file b) →
      s.refusal p = none → s.hasRoom p (b.length + (encodeUtf8 content.data).length) = true →
      FileSystemOperations.appendText p content r s =
        .ok () (s.set p (.file (b ++ encodeUtf8 content.data)))) ∧
    (hasNul p = false → s.parentError p = none → s.get p = none → s.refusal p = none →
      s.hasRoom p (encodeUtf8 content.data).length = true →
      ∃ t, FileSystemOperations.appendText p content r s = .ok () t ∧
        t.Equiv (s.set p (.file (encodeUtf8 content.data)))) ∧
    (∀ old n e, hasNul p = false → s.parentError p = none → s.refusal p = none →
      (s.get p = some (.file old) ∨ s.get p = none ∧ old = []) → s.room p = some (n, e) →
      n < old.length + (encodeUtf8 content.data).length →
      ∃ t, FileSystemOperations.appendText p content r s = .raised e.excNoPath t ∧
        t.Equiv (s.set p (.file (old ++ (encodeUtf8 content.data).take (n - old.length))))) ∧
    (hasNul p = false → s.parentError p = none → s.get p = some .dir →
      FileSystemOperations.appendText p content r s = .raised (Errno.eisdir.exc p) s) ∧
    (∀ e : Refusal, hasNul p = false → s.parentError p = none → s.get p ≠ some .dir →
      s.refusal p = some e →
      FileSystemOperations.appendText p content r s = .raised (e.errno.exc p) s) ∧
    (∀ e, hasNul p = false → s.parentError p = some e →
      FileSystemOperations.appendText p content r s = .raised (e.exc p) s) ∧
    (hasNul p = true → FileSystemOperations.appendText p content r s = .raised nulError s) := by
  refine ⟨fun b hn hpe hf hr hroom => appendText_of_file hn hpe hf hr content hroom,
    fun hn hpe hg hr hroom => ⟨_, appendText_of_none hn hpe hg hr content hroom,
      Store.set_set_equiv _ _ _ _⟩,
    fun old n e hn hpe hr hg hroom hlt => ?_, fun hn hpe hd => ?_, fun e hn hpe hd hr => ?_,
    fun e hn hpe => ?_, fun hn => ?_⟩
  · rcases hg with hf | ⟨hg, rfl⟩
    · exact ⟨_, by
        rw [FileSystemOperations.appendText, PyM.bind_of_ok (by rw [openAppend_of_file hn hpe hf, hr]),
          writeBytes_of_full hf hroom hlt], Store.Equiv.refl _⟩
    · refine ⟨_, ?_, Store.set_set_equiv s p (.file []) _⟩
      rw [FileSystemOperations.appendText, PyM.bind_of_ok (by rw [openAppend_of_none hn hpe hg, hr]),
        writeBytes_of_full (Store.get_set_self _ _ _) hroom hlt]
  · rw [FileSystemOperations.appendText, PyM.bind_of_raised (openAppend_of_dir hn hpe hd)]
  · rw [FileSystemOperations.appendText]
    match hg : s.get p with
    | some .dir => exact absurd hg hd
    | some (.file b) => rw [PyM.bind_of_raised (by rw [openAppend_of_file hn hpe hg, hr])]
    | none => rw [PyM.bind_of_raised (by rw [openAppend_of_none hn hpe hg, hr])]
  · rw [FileSystemOperations.appendText, PyM.bind_of_raised (openAppend_of_error hn hpe)]
  · rw [FileSystemOperations.appendText, PyM.bind_of_raised (openAppend_of_nul hn)]

/-- Reading a file whose bytes decode, at a path that resolves. -/
theorem readText_of_file {b : Bytes} {t : List Char} (hn : hasNul p = false)
    (hpe : s.parentError p = none) (hf : s.get p = some (.file b))
    (ht : HolonAdapter.readText b = some t) : FileSystemOperations.readText p r s = .ok t s := by
  rw [FileSystemOperations.readText, PyM.bind_of_ok (openRead_of_file hn hpe hf), readFile_of_some ht]

/-- **`write_text`, then `read_text`**: the read returns the content with its newlines translated —
the content itself exactly when it holds no `\r` — wherever the write succeeds: the path resolves
to no directory, is not refused, and the file has room for the bytes. -/
theorem readText_writeText (hn : hasNul p = false) (hpe : s.parentError p = none)
    (hd : s.get p ≠ some .dir) (hr : s.refusal p = none) (content : String)
    (hroom : s.hasRoom p (encodeUtf8 content.data).length = true) (r : FsHost) :
    ∃ t text, (do FileSystemOperations.writeText p content; FileSystemOperations.readText p) r s =
        .ok text t ∧
      text = translateNewlines content.data ∧ (text = content.data ↔ '\r' ∉ content.data) := by
  refine ⟨(s.set p (.file [])).set p (.file ([] ++ encodeUtf8 content.data)), _, ?_, rfl,
    translateNewlines_eq_self_iff _⟩
  rw [FileSystemOperations.writeText, PyM.bind_of_ok (writeWith_of_ok hn hpe hd hr content.data hroom)]
  exact readText_of_file hn (by rw [Store.parentError_set, Store.parentError_set, hpe])
    (Store.get_set_self _ _ _) (by rw [List.nil_append, readText_encodeUtf8])

/-- `a\r\nb` written reads back as `a\nb`. -/
theorem readText_writeText_crlf : hasNul ["notes.md"] = false ∧
    Store.root.parentError ["notes.md"] = none ∧ Store.root.get ["notes.md"] ≠ some .dir ∧
    Store.root.refusal ["notes.md"] = none ∧
    Store.root.hasRoom ["notes.md"] (encodeUtf8 "a\r\nb".data).length = true ∧
    ∃ t text,
      (do FileSystemOperations.writeText ["notes.md"] "a\r\nb"; FileSystemOperations.readText ["notes.md"])
          sampleHost Store.root = .ok text t ∧
      text = translateNewlines "a\r\nb".data ∧ (text = "a\r\nb".data ↔ '\r' ∉ "a\r\nb".data) :=
  ⟨by decide, rfl, by decide, rfl, rfl,
    readText_writeText (s := Store.root) (p := ["notes.md"]) (by decide) rfl (by decide) rfl _ rfl _⟩

/-- **`append_text`, then `read_text`**, on a file that read as the text of `t`, where the append
succeeds: the read returns that text followed by the content's — except that a `\r` ending the
file and a `\n` starting the content are read together as one newline. -/
theorem readText_appendText {b : Bytes} {t : List Char} (hn : hasNul p = false)
    (hpe : s.parentError p = none) (hf : s.get p = some (.file b)) (hr : s.refusal p = none)
    (hd : decodeUtf8 b = some t) (content : String)
    (hroom : s.hasRoom p (b.length + (encodeUtf8 content.data).length) = true) (r : FsHost) :
    (do FileSystemOperations.appendText p content; FileSystemOperations.readText p) r s =
      .ok (translateNewlines t ++
          if t.getLast? = some '\r' ∧ content.data.head? = some '\n' then
            (translateNewlines content.data).tail
          else translateNewlines content.data)
        (s.set p (.file (b ++ encodeUtf8 content.data))) := by
  rw [PyM.bind_of_ok (appendText_of_file hn hpe hf hr content hroom), ← translateNewlines_append]
  exact readText_of_file hn (by rw [Store.parentError_set, hpe]) (Store.get_set_self _ _ _)
    (readText_append_encodeUtf8 hd _)

/-- A file holding `a\r`, then `\nb` appended: the two halves of `\r\n` read as one newline. -/
theorem readText_appendText_split_crlf : hasNul ["log"] = false ∧
    (Store.root.set ["log"] (.file [97, 13])).parentError ["log"] = none ∧
    (Store.root.set ["log"] (.file [97, 13])).get ["log"] = some (.file [97, 13]) ∧
    (Store.root.set ["log"] (.file [97, 13])).refusal ["log"] = none ∧
    decodeUtf8 [97, 13] = some ['a', '\r'] ∧
    (Store.root.set ["log"] (.file [97, 13])).hasRoom ["log"]
      ([97, 13].length + (encodeUtf8 "\nb".data).length) = true ∧
    (do FileSystemOperations.appendText ["log"] "\nb"; FileSystemOperations.readText ["log"])
        sampleHost (Store.root.set ["log"] (.file [97, 13])) =
      .ok (translateNewlines ['a', '\r'] ++
          if ['a', '\r'].getLast? = some '\r' ∧ "\nb".data.head? = some '\n' then
            (translateNewlines "\nb".data).tail
          else translateNewlines "\nb".data)
        ((Store.root.set ["log"] (.file [97, 13])).set ["log"]
          (.file ([97, 13] ++ encodeUtf8 "\nb".data))) :=
  ⟨by decide, rfl, Store.get_set_self _ _ _, rfl, by decide, rfl,
    readText_appendText (s := Store.root.set ["log"] (.file [97, 13])) (p := ["log"]) (by decide) rfl
      (Store.get_set_self _ _ _) rfl (by decide) _ rfl _⟩

end Specs

/-! ## Over any sequence of calls

`Store.Extends s t`: a tree stays a tree, and each path of `s` keeps a node of the same kind in
`t`.  Each primitive keeps it, so each method does, and so does any sequence of calls
(`runOps_extends`).  A call that raises has done at most part of its work (`Op.Leaves`): a read
nothing, `makedirs` the directories down to a prefix of its path, a write or an append its file,
with a prefix of the bytes (`runOps_raised`). -/

/-- A node's kind. -/
def Node.isDir : Node → Bool
  | .dir => true
  | .file _ => false

namespace Store

/-- **What a call may make of a store**: a tree stays a tree, and every path keeps a node of the
same kind — nothing is removed, no file becomes a directory and no directory a file. -/
structure Extends (s t : Store) : Prop where
  wellFormed : s.WellFormed → t.WellFormed
  kind : ∀ q n, s.get q = some n → ∃ n', t.get q = some n' ∧ n'.isDir = n.isDir

variable {s t u : Store} {p : FsPath}

theorem Extends.refl (s : Store) : s.Extends s := ⟨id, fun _ n h => ⟨n, h, rfl⟩⟩

theorem Extends.trans (h1 : s.Extends t) (h2 : t.Extends u) : s.Extends u where
  wellFormed := h2.wellFormed ∘ h1.wellFormed
  kind q n hq := by
    obtain ⟨n', h', hk'⟩ := h1.kind q n hq
    obtain ⟨n'', h'', hk''⟩ := h2.kind q n' h'
    exact ⟨n'', h'', hk''.trans hk'⟩

theorem extends_trans (s t u : Store) : s.Extends t → t.Extends u → s.Extends u := Extends.trans

/-- A node put at a missing path below a directory, or a file put over a file. -/
theorem extends_set {n : Node} (hpar : s.WellFormed → s.get p.dropLast = some .dir)
    (hk : s.get p = none ∨ ∃ b b', s.get p = some (.file b) ∧ n = .file b') :
    s.Extends (s.set p n) where
  wellFormed hwf := by
    have hp : p ≠ [] := by
      rintro rfl
      rcases hk with h | ⟨b, b', h, -⟩ <;> rw [hwf.root] at h <;> cases h
    refine hwf.set hp (hpar hwf) ?_
    rcases hk with h | ⟨b, b', h, -⟩ <;> simp [h]
  kind q m hq := by
    rw [get_set]
    split_ifs with hqp
    · subst hqp
      rcases hk with h | ⟨b, b', h, rfl⟩ <;> rw [h] at hq <;> cases hq
      exact ⟨_, rfl, rfl⟩
    · exact ⟨m, hq, rfl⟩

/-- A file put at a path below a directory where there is no directory. -/
theorem extends_set_file {b : Bytes} (hpar : s.WellFormed → s.get p.dropLast = some .dir)
    (hd : s.get p ≠ some .dir) : s.Extends (s.set p (.file b)) :=
  extends_set hpar <| match h : s.get p with
    | none => .inl rfl
    | some (.file b') => .inr ⟨b', b, rfl, rfl⟩
    | some .dir => absurd h hd

end Store

section Keeps

variable {ρ α : Type} {p : FsPath}

theorem keeps_mkdir : PyM.Keeps Store.Extends (mkdir p : PyM ρ Store Unit) := fun r s => by
  rcases mkdir_cases p r s with ⟨e, he⟩ | ⟨-, hpe, hg, -, hok⟩
  · rw [he]; exact .refl s
  · rw [hok]; exact Store.extends_set (fun hwf => hwf.get_dropLast hpe) (.inl hg)

theorem stateless_openRead : PyM.Stateless (openRead p : PyM ρ Store Bytes) :=
  PyM.stateless_bind stateless_resolve fun _ => PyM.stateless_bind PyM.stateless_get fun s => by
    split
    · exact PyM.stateless_pure _
    · exact PyM.stateless_raise _
    · exact PyM.stateless_raise _

theorem keeps_openTruncate : PyM.Keeps Store.Extends (openTruncate p : PyM ρ Store Unit) :=
  fun r s => by
    rcases openTruncate_cases p r s with ⟨-, he⟩ | ⟨e, he⟩ | ⟨-, hpe, hd, -, hok⟩
    · rw [he]; exact .refl s
    · rw [he]; exact .refl s
    · rw [hok]; exact Store.extends_set_file (fun hwf => hwf.get_dropLast hpe) hd

theorem keeps_openAppend : PyM.Keeps Store.Extends (openAppend p : PyM ρ Store Unit) :=
  fun r s => by
    rcases openAppend_cases p r s with ⟨-, he⟩ | ⟨e, he⟩ | ⟨-, hpe, -, ⟨b, -, hok⟩ | ⟨hg, hok⟩⟩
    · rw [he]; exact .refl s
    · rw [he]; exact .refl s
    · rw [hok]; exact .refl s
    · rw [hok]; exact Store.extends_set (fun hwf => hwf.get_dropLast hpe) (.inl hg)

theorem keeps_writeBytes (b : Bytes) : PyM.Keeps Store.Extends (writeBytes p b : PyM ρ Store Unit) :=
  fun r s => by
    rcases writeBytes_state p b r s with h | ⟨old, b', hg, -, h⟩
    · rw [h]; exact .refl s
    · rw [h]
      refine Store.extends_set (fun hwf => hwf.get_dropLast_of_ne_none (by simp [hg]) fun h0 => ?_)
        (.inr ⟨old, _, hg, rfl⟩)
      subst h0
      rw [hwf.root] at hg
      cases hg

theorem keeps_mkdirExistOk (existOk : Bool) (name : FsPath) :
    PyM.Keeps Store.Extends (mkdirExistOk existOk name : PyM ρ Store Unit) :=
  PyM.keeps_tryCatch Store.extends_trans keeps_mkdir fun e =>
    PyM.keeps_bind Store.extends_trans (PyM.stateless_get.keeps Store.Extends.refl) fun _ => by
      split
      · exact (PyM.stateless_pure _).keeps Store.Extends.refl
      · exact (PyM.stateless_raise e).keeps Store.Extends.refl

theorem keeps_makedirsRev (existOk : Bool) (rev : List String) :
    PyM.Keeps Store.Extends (makedirsRev existOk rev : PyM ρ Store Unit) := by
  induction rev with
  | nil => exact keeps_mkdirExistOk existOk []
  | cons x hRev ih =>
    rw [makedirsRev]
    refine PyM.keeps_bind Store.extends_trans (PyM.stateless_get.keeps Store.Extends.refl)
      fun _ => ?_
    dsimp only
    split
    · exact PyM.keeps_bind Store.extends_trans (PyM.keeps_tryCatch Store.extends_trans ih fun _ =>
        (PyM.stateless_pure _).keeps Store.Extends.refl) fun _ => keeps_mkdirExistOk existOk _
    · exact PyM.keeps_bind Store.extends_trans ((PyM.stateless_pure _).keeps Store.Extends.refl)
        fun _ => keeps_mkdirExistOk existOk _

/-- A read, its result set aside. -/
theorem stateless_discard {x : PyM FsHost Store α} (hx : PyM.Stateless x) :
    PyM.Stateless (do let _ ← x; pure ()) :=
  PyM.stateless_bind hx fun _ => PyM.stateless_pure _

theorem stateless_existsPath (p : FsPath) : PyM.Stateless (FileSystemOperations.existsPath p) :=
  PyM.stateless_bind PyM.stateless_get fun _ => PyM.stateless_pure _

theorem stateless_readText (p : FsPath) : PyM.Stateless (FileSystemOperations.readText p) :=
  PyM.stateless_bind stateless_openRead stateless_readFile

theorem stateless_readLoad (load : FsHost → List Char → Except PyExc Json) (p : FsPath) :
    PyM.Stateless (FileSystemOperations.readLoad load p) :=
  PyM.stateless_bind (stateless_readText p) fun _ =>
    PyM.stateless_bind PyM.stateless_read fun _ => by
      split
      · exact PyM.stateless_pure _
      · exact PyM.stateless_raise _

theorem keeps_writeWith (p : FsPath) (text : List Char) :
    PyM.Keeps Store.Extends (FileSystemOperations.writeWith p text) :=
  PyM.keeps_bind Store.extends_trans keeps_openTruncate fun _ => keeps_writeBytes _

/-- **Every call keeps a tree a tree**, removes nothing and changes no path's kind. -/
theorem Op.keeps_run (op : Op) : PyM.Keeps Store.Extends op.run := by
  cases op with
  | existsPath p => exact (stateless_discard (stateless_existsPath p)).keeps Store.Extends.refl
  | makedirs p existOk => exact keeps_makedirsRev existOk _
  | readText p => exact (stateless_discard (stateless_readText p)).keeps Store.Extends.refl
  | writeText p content => exact keeps_writeWith p _
  | readYaml p => exact (stateless_discard (stateless_readLoad _ p)).keeps Store.Extends.refl
  | readJson p => exact (stateless_discard (stateless_readLoad _ p)).keeps Store.Extends.refl
  | writeJson p data indent =>
    exact PyM.keeps_bind Store.extends_trans (PyM.stateless_read.keeps Store.Extends.refl)
      fun _ => keeps_writeWith p _
  | appendText p content =>
    exact PyM.keeps_bind Store.extends_trans keeps_openAppend fun _ => keeps_writeBytes _

/-- **Any sequence of calls keeps a tree a tree**: whether it returns or raises, no path it found
has been removed or has changed from file to directory or back. -/
theorem runOps_extends (ops : List Op) (r : FsHost) (s : Store) :
    s.Extends (runOps ops r s).state := by
  induction ops generalizing r s with
  | nil => exact .refl s
  | cons op ops ih => exact PyM.keeps_bind Store.extends_trans (Op.keeps_run op) (fun _ => ih) r s

end Keeps

/-! ## What a call that raises has done -/

/-- What a write of `bytes` at the end of `old` to the file at `p` may leave: the store as it
was, or the file holding `old` and a prefix of the bytes. -/
def Store.WriteLeaves (s t : Store) (p : FsPath) (old bytes : Bytes) : Prop :=
  t = s ∨ ∃ b, b <+: bytes ∧ t.Equiv (s.set p (.file (old ++ b)))

/-- **What a call that raises may have done**: a read nothing; `makedirs` the missing directories
down to a prefix of its path; a write its file, holding a prefix of the bytes; an append its file
(created if it was missing), with a prefix of the bytes at its end. -/
def Op.Leaves (r : FsHost) : Op → Store → Store → Prop
  | .existsPath _, s, t => t = s
  | .makedirs p _, s, t => ∃ q, q <+: p ∧ s.DirsTo t q
  | .readText _, s, t => t = s
  | .writeText p content, s, t => s.WriteLeaves t p [] (encodeUtf8 content.data)
  | .readYaml _, s, t => t = s
  | .readJson _, s, t => t = s
  | .writeJson p data indent, s, t => s.WriteLeaves t p [] (encodeUtf8 (r.jsonDump data indent))
  | .appendText p content, s, t =>
    s.WriteLeaves t p ((s.fileAt p).getD []) (encodeUtf8 content.data)

section Raised

variable {s t : Store} {r : FsHost} {e : PyExc}

/-- A write, whatever its outcome, leaves the store or its file with a prefix of the bytes. -/
theorem writeWith_leaves (p : FsPath) (text : List Char) (r : FsHost) (s : Store) :
    s.WriteLeaves (FileSystemOperations.writeWith p text r s).state p [] (encodeUtf8 text) := by
  rw [FileSystemOperations.writeWith, PyM.bind_apply]
  rcases openTruncate_cases p r s with ⟨-, he⟩ | ⟨e, he⟩ | ⟨-, -, -, -, hok⟩
  · rw [he]; exact .inl rfl
  · rw [he]; exact .inl rfl
  · rw [hok]
    dsimp only
    rcases writeBytes_state p (encodeUtf8 text) r (s.set p (.file [])) with h | ⟨old, b, hg, hb, h⟩
    · exact .inr ⟨[], List.nil_prefix, by rw [h]; exact Store.Equiv.refl _⟩
    · rw [Store.get_set_self, Option.some.injEq, Node.file.injEq] at hg
      subst hg
      exact .inr ⟨b, hb, by rw [h]; exact Store.set_set_equiv _ _ _ _⟩

/-- An append, whatever its outcome, leaves the store or its file with a prefix of the bytes at its
end. -/
theorem appendText_leaves (p : FsPath) (content : String) (r : FsHost) (s : Store) :
    s.WriteLeaves (FileSystemOperations.appendText p content r s).state p ((s.fileAt p).getD [])
      (encodeUtf8 content.data) := by
  rw [FileSystemOperations.appendText, PyM.bind_apply]
  rcases openAppend_cases p r s with ⟨-, he⟩ | ⟨e, he⟩ | ⟨-, -, -, ⟨b, hf, hok⟩ | ⟨hg, hok⟩⟩
  · rw [he]; exact .inl rfl
  · rw [he]; exact .inl rfl
  · rw [hok]
    dsimp only
    rcases writeBytes_state p (encodeUtf8 content.data) r s with h | ⟨old, b', hg, hb, h⟩
    · exact .inl h
    · rw [hf, Option.some.injEq, Node.file.injEq] at hg
      subst hg
      exact .inr ⟨b', hb, by rw [h, Store.fileAt, hf]; exact Store.Equiv.refl _⟩
  · rw [hok]
    dsimp only
    have hold : (s.fileAt p).getD [] = [] := by rw [Store.fileAt, hg]; rfl
    rw [hold]
    rcases writeBytes_state p (encodeUtf8 content.data) r (s.set p (.file [])) with
      h | ⟨old, b, hg', hb, h⟩
    · exact .inr ⟨[], List.nil_prefix, by rw [h]; exact Store.Equiv.refl _⟩
    · rw [Store.get_set_self, Option.some.injEq, Node.file.injEq] at hg'
      subst hg'
      exact .inr ⟨b, hb, by rw [h]; exact Store.set_set_equiv _ _ _ _⟩

/-- **In a tree, a call that raises has done at most part of its work.** -/
theorem Op.run_raised (hwf : s.WellFormed) {op : Op} (h : op.run r s = .raised e t) :
    op.Leaves r s t := by
  have hst : ∀ {x : PyM FsHost Store Unit}, PyM.Stateless x → x r s = .raised e t → t = s :=
    fun hx hr => by simpa [hr] using hx r s
  have hstate : ∀ {x : PyM FsHost Store Unit}, x r s = .raised e t → t = (x r s).state :=
    fun hr => by rw [hr]; rfl
  cases op with
  | existsPath p => exact hst (stateless_discard (stateless_existsPath p)) h
  | makedirs p existOk =>
    obtain ⟨q, hq, hd⟩ := makedirsRev_dirsTo (r := r) hwf existOk p.reverse
    rw [List.reverse_reverse] at hq
    exact ⟨q, hq, hstate h ▸ hd⟩
  | readText p => exact hst (stateless_discard (stateless_readText p)) h
  | writeText p content => exact hstate h ▸ writeWith_leaves p _ r s
  | readYaml p => exact hst (stateless_discard (stateless_readLoad _ p)) h
  | readJson p => exact hst (stateless_discard (stateless_readLoad _ p)) h
  | writeJson p data indent =>
    rw [Op.run, FileSystemOperations.writeJson, PyM.bind_of_ok (PyM.read_apply r s)] at h
    exact hstate h ▸ writeWith_leaves p _ r s
  | appendText p content => exact hstate h ▸ appendText_leaves p content r s

/-- **A sequence of calls that raises** stops at the call that raised, from the state the calls
before it left, and that call has done at most part of its work. -/
theorem runOps_raised (hwf : s.WellFormed) {ops : List Op} (h : runOps ops r s = .raised e t) :
    ∃ pre op post u, ops = pre ++ op :: post ∧ runOps pre r s = .ok () u ∧
      op.run r u = .raised e t ∧ op.Leaves r u t := by
  induction ops generalizing s with
  | nil => cases h
  | cons op ops ih =>
    rw [runOps, PyM.bind_eq_raised] at h
    rcases h with h1 | ⟨a, s', h1, h2⟩
    · exact ⟨[], op, ops, s, rfl, rfl, h1, Op.run_raised hwf h1⟩
    · have hwf' : s'.WellFormed := by
        have := (Op.keeps_run op r s).wellFormed hwf
        rwa [h1] at this
      obtain ⟨pre, op', post, u, rfl, hpre, hop, hl⟩ := ih hwf' h2
      exact ⟨op :: pre, op', post, u, rfl, by rw [runOps, PyM.bind_of_ok h1]; exact hpre, hop, hl⟩

/-- A write below a missing directory stops the sequence at once, with `FileNotFoundError`. -/
theorem runOps_raised_missing_parent : Store.root.WellFormed ∧
    runOps [.writeText ["holon", "out.md"] "x", .existsPath ["holon"]] sampleHost Store.root =
      .raised (Errno.enoent.exc ["holon", "out.md"]) Store.root ∧
    ∃ pre op post u, [Op.writeText ["holon", "out.md"] "x", .existsPath ["holon"]] = pre ++ op :: post ∧
      runOps pre sampleHost Store.root = .ok () u ∧
      op.run sampleHost u = .raised (Errno.enoent.exc ["holon", "out.md"]) Store.root ∧
      op.Leaves sampleHost u Store.root :=
  have h : runOps [.writeText ["holon", "out.md"] "x", .existsPath ["holon"]] sampleHost Store.root =
      .raised (Errno.enoent.exc ["holon", "out.md"]) Store.root := rfl
  ⟨Store.wellFormed_root, h, runOps_raised Store.wellFormed_root h⟩

end Raised

/-! ## `run_adapter`'s directories and writes, on the file system

`Run/World` records the output files by name; it lets the environment raise at the two
`os.makedirs` before the `try` and at each write's site, and then changes nothing.  On a store
where no output file is limited in room, `os.makedirs` raises only an `OSError` and leaves every
file as it was; a write raises only an `OSError`, changing nothing, or writes the file at the
output file's path; a further write to the open log appends to it and cannot raise.  So every
outcome of the file system is an outcome `Run/World` allows, the files it records being those at
their paths.  (Where a file is limited, a write can fail with the file truncated, which
`Run/World` does not have.) -/

/-- An output file's path, by its components. -/
def OutFile.parts (f : OutFile) : FsPath := (PurePath.parse f.path).parts

theorem OutFile.parts_inj {f g : OutFile} : f.parts = g.parts ↔ f = g := by
  cases f <;> cases g <;> decide

theorem OutFile.hasNul_parts (f : OutFile) : hasNul f.parts = false := by
  cases f <;> decide

/-- **The abstraction**: the output files `Run/World` records are the files of the store at their
paths. -/
def Store.Abstracts (s : Store) (w : World) : Prop := ∀ f, s.fileAt f.parts = w.files f

/-- Two outcomes, of statements on two states: both return the same value, or both raise the same
exception, in states related by `R`. -/
def Res.Rel {σ τ α : Type} (R : σ → τ → Prop) : Res σ α → Res τ α → Prop
  | .ok a s, .ok b t => a = b ∧ R s t
  | .raised e s, .raised e' t => e = e' ∧ R s t
  | _, _ => False

section Refine

variable {s : Store} {w : World} {r : FsHost}

theorem Store.fileAt_set_file (s : Store) (p q : FsPath) (b : Bytes) :
    (s.set p (.file b)).fileAt q = if q = p then some b else s.fileAt q := by
  unfold Store.fileAt
  rw [Store.get_set]
  split_ifs <;> rfl

/-- `f.write` on the file at `p`, with no limit on its room: the bytes go at its end, and a path
holding no file is left alone. -/
theorem writeBytes_fileAt {ρ : Type} {p : FsPath} (hroom : s.room p = none) (b : Bytes) (r : ρ) :
    ∃ t, writeBytes p b r s = .ok () t ∧
      ∀ q, t.fileAt q = if q = p then (s.fileAt p).map (· ++ b) else s.fileAt q := by
  unfold writeBytes
  split
  · rename_i old hg
    rw [hroom]
    refine ⟨_, rfl, fun q => ?_⟩
    rw [Store.fileAt_set_file]
    simp [Store.fileAt, hg]
  · rename_i hg
    refine ⟨_, rfl, fun q => ?_⟩
    split_ifs with hq
    · subst hq
      unfold Store.fileAt
      split
      · rename_i b' hb
        exact absurd hb (hg b')
      · rfl
    · rfl

theorem mkdir_raised_isOSError {ρ : Type} {p : FsPath} {e : PyExc} {t : Store} {r : ρ}
    (hn : hasNul p = false) (h : mkdir p r s = .raised e t) : e.isOSError = true := by
  cases hpe : s.parentError p with
  | some e' => rw [mkdir_of_error hn hpe] at h; cases h; exact isOSError_exc _ _
  | none =>
    cases hg : s.get p with
    | some n => rw [mkdir_of_some hn hpe hg] at h; cases h; exact isOSError_exc _ _
    | none =>
      cases hr : s.refusal p with
      | some e' => rw [mkdir_of_refused hn hpe hg hr] at h; cases h; exact isOSError_exc _ _
      | none => rw [mkdir_of_none hn hpe hg hr] at h; cases h

/-- **`os.makedirs` of a path with no NUL byte raises only an `OSError`.** -/
theorem makedirsRev_raised_isOSError {ρ : Type} {existOk : Bool} {e : PyExc} {r : ρ}
    (rev : List String) (hn : hasNul rev.reverse = false) :
    ∀ {s t : Store}, makedirsRev existOk rev r s = .raised e t → e.isOSError = true := by
  have hmk : ∀ {p : FsPath} {s t : Store}, hasNul p = false →
      mkdirExistOk existOk p r s = .raised e t → e.isOSError = true := fun hp h => by
    unfold mkdirExistOk at h
    rcases PyM.tryCatch_eq_raised h with ⟨h1, -⟩ | ⟨e', s', h1, hc, h2⟩
    · exact mkdir_raised_isOSError hp h1
    · rw [PyM.bind_apply, PyM.get_apply] at h2
      dsimp only at h2
      split at h2
      · cases h2
      · cases h2; exact hc
  induction rev with
  | nil => intro s t h; exact hmk hn h
  | cons x hRev ih =>
    intro s t h
    rw [List.reverse_cons] at hn
    have hnh : hasNul hRev.reverse = false := by
      simp only [hasNul, List.any_append, Bool.or_eq_false_iff] at hn ⊢
      exact hn.1
    cases hst : s.stat hRev.reverse with
    | some n => exact hmk hn (by rwa [makedirsRev_of_exists (by rw [hst]; rfl)] at h)
    | none =>
      rw [makedirsRev_of_missing hst, PyM.bind_eq_raised] at h
      rcases h with h1 | ⟨_, s', -, h2⟩
      · rcases PyM.tryCatch_eq_raised h1 with ⟨h1, -⟩ | ⟨e', s', -, -, h2⟩
        · exact ih hnh h1
        · cases h2
      · exact hmk hn h2

/-- **`os.makedirs` in a tree leaves every file as it was**: it makes directories only where there
was nothing. -/
theorem makedirs_fileAt {ρ : Type} (hwf : s.WellFormed) (p : FsPath) (existOk : Bool) (r : ρ)
    (q : FsPath) : (makedirs p existOk r s).state.fileAt q = s.fileAt q := by
  obtain ⟨o, -, hd⟩ := makedirsRev_dirsTo (r := r) hwf existOk p.reverse
  have hk := keeps_makedirsRev existOk p.reverse r s
  unfold makedirs Store.fileAt
  rw [hd.get]
  split_ifs with hq
  · match hg : s.get q with
    | some (.file b) =>
      obtain ⟨n', hn', hk'⟩ := hk.kind q _ hg
      rw [hd.get, if_pos hq, Option.some.injEq] at hn'
      subst hn'
      cases hk'
    | some .dir => rfl
    | none => rfl
  · rfl

/-- A statement that raises, on the file system, is the world's statement at a site raising the
same exception. -/
theorem refines_of_raised {site : Site} {e : PyExc} {x : PyM FsHost Store Unit}
    {y : PyM Env World Unit} {t : Store} (hos : e.isOSError = true) (habs : t.Abstracts w)
    (h : x r s = .raised e t) (hy : ∀ env e', env.fault site = some e' → y env w = .raised e' w) :
    ∃ fault : Option PyExc, (∀ e', fault = some e' → e'.isOSError = true) ∧
      ∀ env : Env, env.fault site = fault → Res.Rel Store.Abstracts (x r s) (y env w) :=
  ⟨some e, fun _ h' => by cases h'; exact hos, fun env he => by
    rw [h, hy env e he]
    exact ⟨rfl, habs⟩⟩

theorem abstracts_root_sampleWorld : Store.root.Abstracts sampleWorld := fun f => by
  cases f <;> rfl

end Refine

end HolonAdapter
