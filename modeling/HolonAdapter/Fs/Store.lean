import HolonAdapter.Python.Text

/-!
# Fs/Store — the file system `FileSystemOperations` works on, and the kernel's calls on it

    path ──NUL?──▸ ValueError
         ──PATH_MAX, the directories above it, NAME_MAX──▸ ENAMETOOLONG | ENOENT | ENOTDIR
         ──the call's own case──▸ EEXIST | EISDIR | a refusal | done

The model is a store of nodes at absolute paths, with what the kernel refuses beyond the tree's
shape: where it refuses to create a node or to open a file for writing (`EACCES`, `EROFS`,
`ENOSPC`), and how many bytes each file can hold before a write fails.  CPython refuses a path
holding a NUL byte before any call.  The kernel refuses a path of `PATH_MAX` bytes or more; it
then resolves the path component by component, and the first component of more than `NAME_MAX`
bytes (`ENAMETOOLONG`), missing (`ENOENT`) or not a directory (`ENOTDIR`) stops it.  The call
fails with that error, naming the path it was given.  `os.mkdir` and `open` act on what resolution
finds.

* `Store.WellFormed` — a tree: the root is a directory, and so is the parent of every node; in one,
  every prefix of an existing path is a directory (`WellFormed.dir_of_prefix`);
* `ValidPath` — a path none of the name checks refuses, with its prefixes (`ValidPath.mono`);
* `parentError_of_dir`, `parentError_of_file`, `parentError_of_missing` — resolution of a valid
  path, case by case;
* `stat_eq_get` — in a tree, `os.stat` finds exactly the stored nodes at valid paths.
-/

namespace HolonAdapter

/-! ## The store -/

/-- What is at a path: a directory, or a regular file with its bytes. -/
inductive Node where
  | dir
  | file (data : Bytes)
  deriving DecidableEq, Repr

/-- An absolute path, by its components: `/holon/output` is `["holon", "output"]`, `/` is `[]`.
A component is a name — never empty, `.` or `..`. -/
abbrev FsPath := List String

/-- The errors of the kernel the wrapper's methods meet. -/
inductive Errno where
  | enoent
  | eexist
  | enotdir
  | eisdir
  | eacces
  | erofs
  | enospc
  | enametoolong
  deriving DecidableEq, Repr

/-- Why the kernel refuses, once resolution has reached a path, to create a node there or to open
the file there for writing: no write permission, a read-only file system, no free inode. -/
inductive Refusal where
  | eacces
  | erofs
  | enospc
  deriving DecidableEq, Repr

/-- A file system: the node at each path that has one, the latest entry first; where the kernel
refuses to create a node or open a file for writing; and the bytes the file at a path can hold
before a write fails, with the error the write fails with. -/
structure Store where
  entries : List (FsPath × Node)
  refusal : FsPath → Option Refusal
  room : FsPath → Option (ℕ × Errno)

namespace Store

/-- The node at a path. -/
def get (s : Store) (p : FsPath) : Option Node := s.entries.lookup p

/-- Put a node at a path. -/
def set (s : Store) (p : FsPath) (n : Node) : Store := { s with entries := (p, n) :: s.entries }

@[simp] theorem get_set (s : Store) (p q : FsPath) (n : Node) :
    (s.set p n).get q = if q = p then some n else s.get q := by
  by_cases h : q = p
  · subst h
    simp [get, set]
  · simp only [get, set, List.lookup_cons, beq_false_of_ne h, if_neg h]

theorem get_set_self (s : Store) (p : FsPath) (n : Node) : (s.set p n).get p = some n := by
  simp

@[simp] theorem refusal_set (s : Store) (p : FsPath) (n : Node) : (s.set p n).refusal = s.refusal :=
  rfl

@[simp] theorem room_set (s : Store) (p : FsPath) (n : Node) : (s.set p n).room = s.room := rfl

/-- Only the root, a directory, with nothing refused and no file limited. -/
def root : Store := ⟨[([], .dir)], fun _ => none, fun _ => none⟩

/-- **A tree**: the root is a directory, and so is the parent of every node. -/
structure WellFormed (s : Store) : Prop where
  root : s.get [] = some .dir
  parent : ∀ p x, s.get (p ++ [x]) ≠ none → s.get p = some .dir

end Store

/-! ## Names -/

/-- `str(path)` of an absolute path. -/
def pathStr (p : FsPath) : String := "/" ++ "/".intercalate p

/-- CPython refuses a path holding a NUL byte. -/
def hasNul (p : FsPath) : Bool := p.any fun x => x.data.contains '\x00'

/-- A component of at most `NAME_MAX` = 255 bytes. -/
def nameFits (x : String) : Bool := (encodeUtf8 x.data).length ≤ 255

/-- The bytes of the components of a path, each with the slash before it. -/
def namesBytes : FsPath → ℕ
  | [] => 0
  | x :: p => (encodeUtf8 x.data).length + 1 + namesBytes p

theorem namesBytes_append (p q : FsPath) : namesBytes (p ++ q) = namesBytes p + namesBytes q := by
  induction p with
  | nil => simp [namesBytes]
  | cons x p ih =>
    rw [List.cons_append, namesBytes, namesBytes, ih]
    omega

/-- The bytes of `pathStr p`: a slash and the name for each component, or the one slash of `/`. -/
def pathBytes : FsPath → ℕ
  | [] => 1
  | x :: p => namesBytes (x :: p)

/-- A path shorter than `PATH_MAX` = 4096 bytes, its terminating NUL counted. -/
def pathFits (p : FsPath) : Bool := pathBytes p < 4096

/-- **A path no name check refuses**: no NUL byte, under `PATH_MAX`, and every component within
`NAME_MAX` — and every component a name, as the model reads it: not empty, `.` or `..`, which the
kernel reads as the directory itself or its parent. -/
structure ValidPath (p : FsPath) : Prop where
  noNul : hasNul p = false
  fits : pathFits p = true
  names : ∀ x ∈ p, nameFits x = true
  proper : ∀ x ∈ p, x ≠ "" ∧ x ≠ "." ∧ x ≠ ".."

/-- `str(e)` of the `OSError` subclass CPython raises for an error number: its class, number and
`strerror`. -/
def Errno.cls : Errno → String
  | .enoent => "FileNotFoundError"
  | .eexist => "FileExistsError"
  | .enotdir => "NotADirectoryError"
  | .eisdir => "IsADirectoryError"
  | .eacces => "PermissionError"
  | .erofs | .enospc | .enametoolong => "OSError"

/-- `[Errno n] strerror`. -/
def Errno.text : Errno → String
  | .enoent => "[Errno 2] No such file or directory"
  | .eexist => "[Errno 17] File exists"
  | .enotdir => "[Errno 20] Not a directory"
  | .eisdir => "[Errno 21] Is a directory"
  | .eacces => "[Errno 13] Permission denied"
  | .erofs => "[Errno 30] Read-only file system"
  | .enospc => "[Errno 28] No space left on device"
  | .enametoolong => "[Errno 36] File name too long"

/-- The error number of a refusal. -/
def Refusal.errno : Refusal → Errno
  | .eacces => .eacces
  | .erofs => .erofs
  | .enospc => .enospc

/-- The exception a call on a path raises: `[Errno n] strerror: 'path'`. -/
def Errno.exc (e : Errno) (p : FsPath) : PyExc :=
  ⟨.exception e.cls, e.text ++ ": '" ++ pathStr p ++ "'"⟩

/-- The exception a write raises, which names no path. -/
def Errno.excNoPath (e : Errno) : PyExc := ⟨.exception e.cls, e.text⟩

/-- `ValueError: embedded null byte`. -/
def nulError : PyExc := ⟨.exception "ValueError", "embedded null byte"⟩

/-- `except OSError` catches it: `OSError` and its subclasses raised here. -/
def PyExc.isOSError (e : PyExc) : Bool :=
  match e.cls with
  | .exception n => ["OSError", "FileNotFoundError", "FileExistsError", "NotADirectoryError",
      "IsADirectoryError", "PermissionError"].contains n
  | _ => false

/-- `except FileNotFoundError` catches it. -/
def PyExc.isFileNotFoundError (e : PyExc) : Bool := e.cls == .exception "FileNotFoundError"

/-- `except FileExistsError` catches it. -/
def PyExc.isFileExistsError (e : PyExc) : Bool := e.cls == .exception "FileExistsError"

theorem ValidPath.mono {p q : FsPath} (hv : ValidPath p) (hq : q <+: p) : ValidPath q := by
  obtain ⟨hn, hf, hx, hp⟩ := hv
  obtain ⟨r, rfl⟩ := hq
  simp only [hasNul, List.any_append, Bool.or_eq_false_iff] at hn
  refine ⟨hn.1, ?_, fun x h => hx x (List.mem_append_left r h), fun x h => hp x (List.mem_append_left r h)⟩
  simp only [pathFits, decide_eq_true_eq] at hf ⊢
  cases q with
  | nil => exact Nat.lt_of_lt_of_le (by decide) (Nat.le_refl 4096)
  | cons x q =>
    cases r with
    | nil => rwa [List.append_nil] at hf
    | cons y r =>
      rw [List.cons_append, pathBytes, ← List.cons_append, namesBytes_append] at hf
      rw [pathBytes]
      omega

/-! ## The kernel's calls -/

namespace Store

/-- The kernel's walk down the directories `ds` below `cur`: the error at the first whose name is
too long, that is missing, or that is not a directory. -/
def walkDirs (s : Store) (cur : FsPath) : List String → Option Errno
  | [] => none
  | d :: ds =>
    if nameFits d then
      match s.get (cur ++ [d]) with
      | some .dir => s.walkDirs (cur ++ [d]) ds
      | some (.file _) => some .enotdir
      | none => some .enoent
    else some .enametoolong

/-- The error the kernel meets before it reaches a path's own entry: the path's length, the walk
down the directories above it, and the length of its last name. -/
def parentError (s : Store) (p : FsPath) : Option Errno :=
  if pathFits p then
    match s.walkDirs [] p.dropLast with
    | some e => some e
    | none => if p.getLast?.all nameFits then none else some .enametoolong
  else some .enametoolong

/-- `os.stat(path)`: the node, when the path resolves to one.  `os.path.exists` and
`os.path.isdir` read any error, `ValueError` included, as no node. -/
def stat (s : Store) (p : FsPath) : Option Node :=
  if hasNul p = false ∧ s.parentError p = none then s.get p else none

end Store

section Calls

variable {ρ : Type}

/-- A statement that raises the error for `p`, or runs on. -/
def raiseErrno (p : FsPath) : Option Errno → PyM ρ Store Unit
  | some e => PyM.raise (e.exc p)
  | none => pure ()

/-- The checks every call on a path starts with: CPython's for a NUL byte, then the kernel's
resolution. -/
def resolve (p : FsPath) : PyM ρ Store Unit := do
  if hasNul p then PyM.raise nulError
  raiseErrno p ((← PyM.get).parentError p)

/-- `os.mkdir(path)`. -/
def mkdir (p : FsPath) : PyM ρ Store Unit := do
  resolve p
  let s ← PyM.get
  match s.get p with
  | some _ => PyM.raise (Errno.eexist.exc p)
  | none =>
    match s.refusal p with
    | some e => PyM.raise (e.errno.exc p)
    | none => PyM.modify (·.set p .dir)

/-- `open(path, 'r')`: the bytes of the file. -/
def openRead (p : FsPath) : PyM ρ Store Bytes := do
  resolve p
  match (← PyM.get).get p with
  | some (.file b) => pure b
  | some .dir => PyM.raise (Errno.eisdir.exc p)
  | none => PyM.raise (Errno.enoent.exc p)

/-- `open(path, 'w')`: the file, created or truncated. -/
def openTruncate (p : FsPath) : PyM ρ Store Unit := do
  resolve p
  let s ← PyM.get
  match s.get p with
  | some .dir => PyM.raise (Errno.eisdir.exc p)
  | _ =>
    match s.refusal p with
    | some e => PyM.raise (e.errno.exc p)
    | none => PyM.modify (·.set p (.file []))

/-- `open(path, 'a')`: the file, created if it is missing. -/
def openAppend (p : FsPath) : PyM ρ Store Unit := do
  resolve p
  let s ← PyM.get
  match s.get p with
  | some .dir => PyM.raise (Errno.eisdir.exc p)
  | some (.file _) =>
    match s.refusal p with
    | some e => PyM.raise (e.errno.exc p)
    | none => pure ()
  | none =>
    match s.refusal p with
    | some e => PyM.raise (e.errno.exc p)
    | none => PyM.modify (·.set p (.file []))

/-- `f.write(…)` to the file open at `p`, up to the flush that closes it: the bytes go at its end,
as many as it has room for; past that the write fails, naming no path. -/
def writeBytes (p : FsPath) (b : Bytes) : PyM ρ Store Unit := fun _ s =>
  match s.get p with
  | some (.file old) =>
    match s.room p with
    | some (n, e) =>
      if old.length + b.length ≤ n then .ok () (s.set p (.file (old ++ b)))
      else .raised e.excNoPath (s.set p (.file (old ++ b.take (n - old.length))))
    | none => .ok () (s.set p (.file (old ++ b)))
  | _ => .ok () s

end Calls

/-! ## Resolution in a tree

In a tree, the prefixes of an existing path are directories; so resolution of a valid path stops
at the first prefix that is a file (`ENOTDIR`), else at the first that is missing (`ENOENT`), else
it reaches the path. -/

namespace Store

variable {s : Store}

/-- Above an existing node there are only directories. -/
theorem WellFormed.dir_of_prefix (hwf : s.WellFormed) {p q : FsPath} (hp : s.get p ≠ none)
    (hq : q <+: p) (hne : q ≠ p) : s.get q = some .dir := by
  induction p using List.reverseRecOn with
  | nil => exact absurd (List.prefix_nil.mp hq) hne
  | append_singleton p x ih =>
    have hp' := hwf.parent p x hp
    rcases List.prefix_concat_iff.mp hq with rfl | hq'
    · exact absurd rfl hne
    · by_cases hqp : q = p
      · rw [hqp, hp']
      · exact ih (by rw [hp']; exact Option.some_ne_none _) hq' hqp

/-- Above a directory there are only directories. -/
theorem WellFormed.dir_of_prefix_dir (hwf : s.WellFormed) {p q : FsPath}
    (hp : s.get p = some .dir) (hq : q <+: p) : s.get q = some .dir := by
  by_cases hqp : q = p
  · rw [hqp, hp]
  · exact hwf.dir_of_prefix (by rw [hp]; exact Option.some_ne_none _) hq hqp

/-- Below a file, or below nothing, there is nothing. -/
theorem WellFormed.get_eq_none (hwf : s.WellFormed) {p q : FsPath} (hq : q <+: p) (hne : q ≠ p)
    (hnd : s.get q ≠ some .dir) : s.get p = none := by
  by_contra hp
  exact hnd (hwf.dir_of_prefix hp hq hne)

theorem walkDirs_of_dirs {cur ds : FsPath} (hn : ∀ x ∈ ds, nameFits x = true)
    (h : ∀ q, q <+: ds → q ≠ [] → s.get (cur ++ q) = some .dir) : s.walkDirs cur ds = none := by
  induction ds generalizing cur with
  | nil => rfl
  | cons d ds ih =>
    rw [walkDirs, if_pos (hn d (List.mem_cons_self _ _)),
      h [d] (List.cons_prefix_cons.mpr ⟨rfl, List.nil_prefix⟩) (List.cons_ne_nil _ _)]
    exact ih (fun x hx => hn x (List.mem_cons_of_mem _ hx)) fun q hq hne => by
      rw [List.append_assoc, List.singleton_append]
      exact h (d :: q) (List.cons_prefix_cons.mpr ⟨rfl, hq⟩) (List.cons_ne_nil _ _)

theorem walkDirs_of_file {cur ds q : FsPath} {b : Bytes} (hn : ∀ x ∈ ds, nameFits x = true)
    (hd : ∀ r, r <+: q → r ≠ q → r ≠ [] → s.get (cur ++ r) = some .dir) (hq : q <+: ds)
    (hq0 : q ≠ []) (hf : s.get (cur ++ q) = some (.file b)) : s.walkDirs cur ds = some .enotdir := by
  induction ds generalizing cur q with
  | nil => exact absurd (List.prefix_nil.mp hq) hq0
  | cons d ds ih =>
    obtain ⟨q', rfl, hq'⟩ := (List.prefix_cons_iff.mp hq).resolve_left hq0
    rw [walkDirs, if_pos (hn d (List.mem_cons_self _ _))]
    by_cases hq'0 : q' = []
    · subst hq'0
      rw [hf]
    · rw [hd [d] (List.cons_prefix_cons.mpr ⟨rfl, List.nil_prefix⟩)
        (by simpa using Ne.symm hq'0) (List.cons_ne_nil _ _)]
      refine ih (fun x hx => hn x (List.mem_cons_of_mem _ hx)) (fun r hr hne hr0 => ?_) hq' hq'0
        (by simpa using hf)
      simpa using hd (d :: r) (List.cons_prefix_cons.mpr ⟨rfl, hr⟩) (by simpa using hne)
        (List.cons_ne_nil _ _)

theorem walkDirs_of_missing {cur ds : FsPath} (hn : ∀ x ∈ ds, nameFits x = true)
    (hcur : s.get cur = some .dir) (hnf : ∀ r b, r <+: ds → s.get (cur ++ r) ≠ some (.file b))
    (hnd : s.get (cur ++ ds) ≠ some .dir) : s.walkDirs cur ds = some .enoent := by
  induction ds generalizing cur with
  | nil => exact absurd (by rwa [List.append_nil]) hnd
  | cons d ds ih =>
    have hd : [d] <+: d :: ds := List.cons_prefix_cons.mpr ⟨rfl, List.nil_prefix⟩
    rw [walkDirs, if_pos (hn d (List.mem_cons_self _ _))]
    match h : s.get (cur ++ [d]) with
    | some .dir =>
      refine ih (fun x hx => hn x (List.mem_cons_of_mem _ hx)) h (fun r b hr => ?_) (by simpa using hnd)
      simpa using hnf (d :: r) b (List.cons_prefix_cons.mpr ⟨rfl, hr⟩)
    | some (.file b) => exact absurd h (hnf [d] b hd)
    | none => rfl

/-- A valid path resolves as the walk above it does. -/
theorem parentError_of_valid {p : FsPath} (hv : ValidPath p) :
    s.parentError p = s.walkDirs [] p.dropLast := by
  rw [parentError, if_pos hv.fits]
  split
  · rename_i e he
    exact he.symm
  · rename_i he
    rw [he, if_pos]
    cases hl : p.getLast? with
    | none => rfl
    | some x => exact hv.names x (List.mem_of_getLast?_eq_some hl)

theorem dropLast_names {p : FsPath} (hv : ValidPath p) : ∀ x ∈ p.dropLast, nameFits x = true :=
  fun x hx => hv.names x (List.dropLast_subset p hx)

/-- **Resolution reaches a valid path whose parent is a directory.** -/
theorem parentError_of_dir (hwf : s.WellFormed) {p : FsPath} (hv : ValidPath p)
    (hp : s.get p.dropLast = some .dir) : s.parentError p = none := by
  rw [parentError_of_valid hv]
  exact walkDirs_of_dirs (dropLast_names hv) fun _ hq _ => hwf.dir_of_prefix_dir hp hq

/-- **Resolution stops at a file above the path** with `ENOTDIR`. -/
theorem parentError_of_file (hwf : s.WellFormed) {p q : FsPath} {b : Bytes} (hv : ValidPath p)
    (hq : q <+: p.dropLast) (hf : s.get q = some (.file b)) : s.parentError p = some .enotdir := by
  have hq0 : q ≠ [] := by rintro rfl; rw [hwf.root] at hf; cases hf
  rw [parentError_of_valid hv]
  exact walkDirs_of_file (dropLast_names hv)
    (fun r hr hne _ => hwf.dir_of_prefix (by rw [hf]; exact Option.some_ne_none _) hr hne) hq hq0 hf

/-- **Resolution stops at a missing directory above the path** with `ENOENT`, when no file is
above it. -/
theorem parentError_of_missing (hwf : s.WellFormed) {p : FsPath} (hv : ValidPath p)
    (hnf : ∀ q b, q <+: p.dropLast → s.get q ≠ some (.file b)) (hnd : s.get p.dropLast ≠ some .dir) :
    s.parentError p = some .enoent := by
  rw [parentError_of_valid hv]
  exact walkDirs_of_missing (dropLast_names hv) hwf.root hnf hnd

/-- **Resolution that succeeds has walked directories only**: in a tree, it ends at the parent's
directory. -/
theorem get_of_walkDirs_eq_none {cur ds : FsPath} (hcur : s.get cur = some .dir)
    (h : s.walkDirs cur ds = none) : s.get (cur ++ ds) = some .dir := by
  induction ds generalizing cur with
  | nil => rwa [List.append_nil]
  | cons d ds ih =>
    rw [walkDirs] at h
    split_ifs at h
    split at h
    · rename_i hd
      simpa using ih hd h
    · cases h
    · cases h

theorem walkDirs_of_parentError {p : FsPath} (hpe : s.parentError p = none) :
    s.walkDirs [] p.dropLast = none := by
  cases h : s.walkDirs [] p.dropLast with
  | none => rfl
  | some e =>
    unfold parentError at hpe
    rw [h] at hpe
    split_ifs at hpe

theorem WellFormed.get_dropLast (hwf : s.WellFormed) {p : FsPath} (hpe : s.parentError p = none) :
    s.get p.dropLast = some .dir :=
  get_of_walkDirs_eq_none hwf.root (walkDirs_of_parentError hpe)

/-- In a tree, the parent of a node other than the root is a directory. -/
theorem WellFormed.get_dropLast_of_ne_none (hwf : s.WellFormed) {p : FsPath} (hp : s.get p ≠ none)
    (hp0 : p ≠ []) : s.get p.dropLast = some .dir := by
  obtain ⟨q, x, rfl⟩ := (List.eq_nil_or_concat p).resolve_left hp0
  rw [List.concat_eq_append, List.dropLast_concat]
  exact hwf.parent q x (by rwa [← List.concat_eq_append])

/-- A node put where the walk does not pass leaves the walk as it was. -/
theorem walkDirs_set {cur ds p : FsPath} {n : Node} (hp : ¬p <+: cur ++ ds) :
    (s.set p n).walkDirs cur ds = s.walkDirs cur ds := by
  induction ds generalizing cur with
  | nil => rfl
  | cons d ds ih =>
    have hne : cur ++ [d] ≠ p := by
      rintro rfl
      exact hp ⟨ds, by simp⟩
    rw [walkDirs, walkDirs, get_set, if_neg hne, ih (by simpa using hp)]

/-- A node put at a path does not change how the path resolves. -/
theorem parentError_set (p : FsPath) (n : Node) : (s.set p n).parentError p = s.parentError p := by
  unfold parentError
  rcases List.eq_nil_or_concat p with rfl | ⟨q, x, rfl⟩
  · rfl
  · rw [walkDirs_set fun h => ?_]
    have hl := h.length_le
    rw [List.nil_append, List.length_dropLast, List.concat_eq_append, List.length_append,
      List.length_singleton] at hl
    omega

/-- The root alone is a tree. -/
theorem wellFormed_root : root.WellFormed where
  root := rfl
  parent p x h := by
    have he : (p ++ [x]).isEmpty = false := by cases p <;> rfl
    simp [get, root, List.lookup_cons, he] at h

/-- **In a tree, `os.stat` finds exactly the stored nodes** at valid paths. -/
theorem stat_eq_get (hwf : s.WellFormed) {p : FsPath} (hv : ValidPath p) : s.stat p = s.get p := by
  unfold stat
  split_ifs with h
  · rfl
  · symm
    rcases List.eq_nil_or_concat p with rfl | ⟨p', x, rfl⟩
    · exact absurd ⟨hv.noNul, parentError_of_dir hwf hv hwf.root⟩ h
    · rw [List.concat_eq_append] at h hv ⊢
      by_contra hp
      exact h ⟨hv.noNul, parentError_of_dir hwf hv (by rw [List.dropLast_concat]; exact hwf.parent p' x hp)⟩

/-- **A node put below a directory keeps a tree a tree** — unless a file replaces a directory. -/
theorem WellFormed.set (hwf : s.WellFormed) {p : FsPath} {n : Node} (hp : p ≠ [])
    (hpar : s.get p.dropLast = some .dir) (hdir : n = .dir ∨ s.get p ≠ some .dir) :
    (s.set p n).WellFormed := by
  constructor
  · rw [get_set, if_neg (Ne.symm hp)]
    exact hwf.root
  · intro q x hq
    rw [get_set] at hq ⊢
    by_cases hqx : q ++ [x] = p
    · subst hqx
      rw [List.dropLast_concat] at hpar
      rw [if_neg (by simp), hpar]
    · rw [if_neg hqx] at hq
      have hq' := hwf.parent q x hq
      split_ifs with hqp
      · subst hqp
        rcases hdir with rfl | hd
        · rfl
        · exact absurd hq' hd
      · exact hq'

end Store

/-! ## The calls, case by case -/

section CallLemmas

variable {ρ α : Type} {s : Store} {p : FsPath} {r : ρ}

theorem resolve_of_nul (h : hasNul p = true) : resolve p r s = .raised nulError s := by
  simp [resolve, PyM.bind_apply, h]

theorem resolve_of_error {e : Errno} (hn : hasNul p = false) (h : s.parentError p = some e) :
    resolve p r s = .raised (e.exc p) s := by
  simp [resolve, PyM.bind_apply, hn, h, raiseErrno]

theorem resolve_of_none (hn : hasNul p = false) (h : s.parentError p = none) :
    resolve p r s = .ok () s := by
  simp [resolve, PyM.bind_apply, hn, h, raiseErrno]

theorem stateless_resolve : PyM.Stateless (resolve p : PyM ρ Store Unit) := fun r s => by
  cases hn : hasNul p
  · cases h : s.parentError p
    · rw [resolve_of_none hn h]; rfl
    · rw [resolve_of_error hn h]; rfl
  · rw [resolve_of_nul hn]; rfl

theorem raiseErrno_none : raiseErrno p none r s = .ok () s := rfl

theorem raiseErrno_some {e : Errno} : raiseErrno p (some e) r s = .raised (e.exc p) s := rfl

theorem mkdir_of_none (hn : hasNul p = false) (hpe : s.parentError p = none) (hg : s.get p = none)
    (hr : s.refusal p = none) : mkdir p r s = .ok () (s.set p .dir) := by
  simp [mkdir, PyM.bind_apply, resolve_of_none hn hpe, hg, hr, raiseErrno]

theorem mkdir_of_refused {e : Refusal} (hn : hasNul p = false) (hpe : s.parentError p = none)
    (hg : s.get p = none) (hr : s.refusal p = some e) : mkdir p r s = .raised (e.errno.exc p) s := by
  simp [mkdir, PyM.bind_apply, resolve_of_none hn hpe, hg, hr, raiseErrno]

theorem mkdir_of_some {n : Node} (hn : hasNul p = false) (hpe : s.parentError p = none)
    (hg : s.get p = some n) : mkdir p r s = .raised (Errno.eexist.exc p) s := by
  simp [mkdir, PyM.bind_apply, resolve_of_none hn hpe, hg]

theorem mkdir_of_error {e : Errno} (hn : hasNul p = false) (hpe : s.parentError p = some e) :
    mkdir p r s = .raised (e.exc p) s := by
  rw [mkdir, PyM.bind_of_raised (resolve_of_error hn hpe)]

theorem mkdir_of_nul (hn : hasNul p = true) : mkdir p r s = .raised nulError s := by
  rw [mkdir, PyM.bind_of_raised (resolve_of_nul hn)]

/-- **What `os.mkdir` can do**: raise with nothing changed, or make the directory, when the path
resolves to nothing and nothing refuses it. -/
theorem mkdir_cases (p : FsPath) (r : ρ) (s : Store) :
    (∃ e, mkdir p r s = .raised e s) ∨
      (hasNul p = false ∧ s.parentError p = none ∧ s.get p = none ∧ s.refusal p = none ∧
        mkdir p r s = .ok () (s.set p .dir)) := by
  cases hn : hasNul p
  · cases hpe : s.parentError p with
    | some e => exact .inl ⟨_, mkdir_of_error hn hpe⟩
    | none =>
      cases hg : s.get p with
      | some n => exact .inl ⟨_, mkdir_of_some hn hpe hg⟩
      | none =>
        cases hr : s.refusal p with
        | some e => exact .inl ⟨_, mkdir_of_refused hn hpe hg hr⟩
        | none => exact .inr ⟨rfl, rfl, rfl, rfl, mkdir_of_none hn hpe hg hr⟩
  · exact .inl ⟨_, mkdir_of_nul hn⟩

end CallLemmas

end HolonAdapter
