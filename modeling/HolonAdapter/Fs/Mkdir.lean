import HolonAdapter.Fs.Store
import HolonAdapter.Config

/-!
# Fs/Mkdir — `os.makedirs` and `Path.mkdir`: the directories they create, the errors they raise

    os.makedirs(p, exist_ok)          ─┐  the missing prefixes of `p` made directories, top-down,
    Path(p).mkdir(parents, exist_ok)  ─┘  up to the first call that raises

`run_adapter` creates its output directories with `os.makedirs(…, exist_ok=True)`;
`HolonConfig.ensure_directories` creates the same directories with
`Path.mkdir(parents=True, exist_ok=True)`.  Both are transcribed from CPython's Python source, the
recursion on the parent made structural by walking the path from its last component.

Whatever either raises, it has made exactly the missing directories down to some prefix of its
path, and nothing else (`makedirsRev_dirsTo`, `pathMkdirRev_dirsTo`): a failure below the first
missing directory — a refusal, a name too long and, for `os.makedirs`, a NUL byte — leaves the
directories above it made.
On a valid path in a tree the two make the same directories and fail in the same cases with the
same class of exception — but not always with the same message: `os.makedirs` names the path just
below the regular file that stops it, `Path.mkdir` the path it was given.

* `makedirs_spec`, `pathMkdir_spec` — each creator, in each of its cases: it makes the path, the
  path is a directory already, a regular file is on it, or the kernel refuses a missing prefix;
* `ensureDirectories_spec` — what `ensure_directories` does, at any root and from any working
  directory;
* `ensureDirectories_agrees_makeOutputDirs` — at the default root, the same as `run_adapter`'s own
  two calls, up to the text of an exception.
-/

namespace HolonAdapter

section Calls

variable {ρ : Type}

/-- `try: os.mkdir(name) except OSError: if not exist_ok or not path.isdir(name): raise`. -/
def mkdirExistOk (existOk : Bool) (name : FsPath) : PyM ρ Store Unit :=
  PyM.tryCatch PyExc.isOSError (mkdir name) fun e => do
    if existOk && (← PyM.get).stat name = some .dir then pure () else PyM.raise e

/-- **`os.makedirs(name, exist_ok)`** (CPython's `os.py`), the path given last component first:
`head, tail = path.split(name)`; when `head` does not exist, `makedirs(head, exist_ok)` with its
`FileExistsError` ignored; then `mkdir(name)`, an `OSError` ignored when `exist_ok` and `name` is
a directory.  At `/` the `tail` is empty and only the `mkdir` is left. -/
def makedirsRev (existOk : Bool) : List String → PyM ρ Store Unit
  | [] => mkdirExistOk existOk []
  | tail :: headRev => do
    if ((← PyM.get).stat headRev.reverse).isNone then
      PyM.tryCatch PyExc.isFileExistsError (makedirsRev existOk headRev) fun _ => pure ()
    mkdirExistOk existOk (tail :: headRev).reverse

/-- `os.makedirs(name, exist_ok=exist_ok)`. -/
def makedirs (name : FsPath) (existOk : Bool) : PyM ρ Store Unit := makedirsRev existOk name.reverse

/-- The `try` of `Path.mkdir`: `os.mkdir(self)`; a `FileNotFoundError` goes to `onNotFound`, any
other `OSError` is ignored when `exist_ok` and `self` is a directory.  (`Path.is_dir` lets an
error other than `ENOENT` or `ENOTDIR` through in some versions of `pathlib`; here that error is
`ENAMETOOLONG` for the path `os.mkdir` was refused with, the same exception.) -/
def pathMkdirTry (existOk : Bool) (self : FsPath) (onNotFound : PyExc → PyM ρ Store Unit) :
    PyM ρ Store Unit :=
  PyM.tryCatch PyExc.isOSError (mkdir self) fun e =>
    if e.isFileNotFoundError then onNotFound e
    else do if existOk && (← PyM.get).stat self = some .dir then pure () else PyM.raise e

/-- **`Path(self).mkdir(parents, exist_ok)`** (CPython's `pathlib.py`), the path given last component
first: on `FileNotFoundError`, `raise` unless `parents` and `self` is not `/`; else
`self.parent.mkdir(parents=True, exist_ok=True)`, then
`self.mkdir(parents=False, exist_ok=exist_ok)`. -/
def pathMkdirRev (parents existOk : Bool) : List String → PyM ρ Store Unit
  | [] => pathMkdirTry existOk [] PyM.raise
  | x :: parentRev => pathMkdirTry existOk (x :: parentRev).reverse fun e =>
    if parents then do
      pathMkdirRev true true parentRev
      pathMkdirTry existOk (x :: parentRev).reverse PyM.raise
    else PyM.raise e

/-- `Path(self).mkdir(parents=parents, exist_ok=exist_ok)`. -/
def pathMkdir (parents existOk : Bool) (self : FsPath) : PyM ρ Store Unit :=
  pathMkdirRev parents existOk self.reverse

end Calls

/-- The path the kernel acts on for a `pathlib` path: a relative one is taken from the working
directory `cwd`.  (The code's exceptions name a relative path as it is given; the model's name it
from the root.) -/
def PurePath.absIn (cwd : FsPath) (p : PurePath) : FsPath :=
  if p.root = "" then cwd ++ p.parts else p.parts

/-- `HolonConfig.ensure_directories()`, from the working directory `cwd`:
`output_dir.mkdir(parents=True, exist_ok=True)`, then the same for `evidence_dir`. -/
def HolonConfig.ensureDirectories {ρ : Type} (cwd : FsPath) (c : HolonConfig) : PyM ρ Store Unit := do
  pathMkdir true true (c.outputDir.absIn cwd)
  pathMkdir true true (c.evidenceDir.absIn cwd)

/-- Lines 44–47 of `run_adapter`: `os.makedirs(output_dir, exist_ok=True)`, then the same for
`evidence_dir`. -/
def makeOutputDirs {ρ : Type} : PyM ρ Store Unit := do
  makedirs (PurePath.parse outputDir).parts true
  makedirs (PurePath.parse evidenceDir).parts true

/-! ## Directories made

`DirsTo s t p` says that `t` is `s` with the missing prefixes of `p` made directories, and nothing
else changed; a path either has a regular file on it or not, and the kernel refuses to create some
missing prefix of it or none. -/

namespace Store

/-- No prefix of `p`, `p` included, holds a regular file. -/
def NoFileOn (s : Store) (p : FsPath) : Prop := ∀ q b, q <+: p → s.get q ≠ some (.file b)

/-- The kernel refuses to create no missing prefix of `p`, `p` included. -/
def NoRefusalOn (s : Store) (p : FsPath) : Prop :=
  ∀ q, q <+: p → s.get q = none → s.refusal q = none

/-- `q` is the first missing prefix of `p` the kernel refuses to create, with `e`. -/
structure FirstRefused (s : Store) (p q : FsPath) (e : Refusal) : Prop where
  along : q <+: p
  missing : s.get q = none
  refused : s.refusal q = some e
  before : s.NoRefusalOn q.dropLast

/-- `t` is `s` with every prefix of `p` a directory, and nothing else changed. -/
structure DirsTo (s t : Store) (p : FsPath) : Prop where
  get : ∀ q, t.get q = if q <+: p then some .dir else s.get q
  refusal : t.refusal = s.refusal
  room : t.room = s.room

variable {s t : Store} {p : FsPath}

theorem NoFileOn.mono (h : s.NoFileOn p) {q : FsPath} (hq : q <+: p) : s.NoFileOn q :=
  fun r b hr => h r b (hr.trans hq)

theorem NoRefusalOn.mono (h : s.NoRefusalOn p) {q : FsPath} (hq : q <+: p) : s.NoRefusalOn q :=
  fun r hr => h r (hr.trans hq)

/-- The directories up to a path, in a tree, keep it a tree. -/
theorem WellFormed.dirsTo (hwf : s.WellFormed) (ht : s.DirsTo t p) : t.WellFormed where
  root := by rw [ht.get, if_pos List.nil_prefix]
  parent q x hq := by
    rw [ht.get] at hq ⊢
    split_ifs at hq with hqx
    · rw [if_pos ((List.prefix_append q [x]).trans hqx)]
    · split_ifs
      · rfl
      · exact hwf.parent q x hq

/-- A directory at `p` in a tree: the directories up to `p` are already there. -/
theorem dirsTo_self (hwf : s.WellFormed) (hp : s.get p = some .dir) : s.DirsTo s p where
  get q := by
    split_ifs with hq
    · exact hwf.dir_of_prefix_dir hp hq
    · rfl
  refusal := rfl
  room := rfl

/-- The directories up to `o`, then those up to a path below `o`. -/
theorem DirsTo.trans {u : Store} {o : FsPath} (h1 : s.DirsTo t o) (h2 : t.DirsTo u p)
    (ho : o <+: p) : s.DirsTo u p where
  get q := by
    rw [h2.get, h1.get]
    by_cases hq : q <+: p
    · rw [if_pos hq, if_pos hq]
    · rw [if_neg hq, if_neg hq, if_neg fun h => hq (h.trans ho)]
  refusal := h2.refusal.trans h1.refusal
  room := h2.room.trans h1.room

/-- A path below a directory, made a directory in a tree: its directories are all there. -/
theorem WellFormed.dirsTo_set (hwf : s.WellFormed) (hpe : s.parentError p = none) :
    s.DirsTo (s.set p .dir) p where
  get q := by
    rw [get_set]
    by_cases hqp : q = p
    · rw [if_pos hqp, if_pos (hqp ▸ List.prefix_rfl)]
    · rw [if_neg hqp]
      by_cases hq : q <+: p
      · rw [if_pos hq]
        rcases List.eq_nil_or_concat p with rfl | ⟨h, x, rfl⟩
        · exact absurd (List.prefix_nil.mp hq) hqp
        · have hpar := hwf.get_dropLast hpe
          rw [List.concat_eq_append, List.dropLast_concat] at hpar
          rw [List.concat_eq_append] at hq hqp
          exact hwf.dir_of_prefix_dir hpar ((List.prefix_concat_iff.mp hq).resolve_left hqp)
      · rw [if_neg hq]
  refusal := rfl
  room := rfl

/-- Making directories puts no regular file on a path. -/
theorem NoFileOn.dirsTo {o : FsPath} (h : s.NoFileOn p) (ht : s.DirsTo t o) : t.NoFileOn p :=
  fun q b hq => by
    rw [ht.get]
    split_ifs
    · simp
    · exact h q b hq

/-- One more directory below the directories up to its parent. -/
theorem DirsTo.set {h : FsPath} {x : String} (ht : s.DirsTo t h) :
    s.DirsTo (t.set (h ++ [x]) .dir) (h ++ [x]) where
  get q := by
    rw [get_set, ht.get]
    by_cases hq : q = h ++ [x] <;> simp [hq, List.prefix_concat_iff]
  refusal := ht.refusal
  room := ht.room

/-- **A first refused prefix exists** where the kernel refuses some missing prefix, in a tree. -/
theorem exists_firstRefused (hwf : s.WellFormed) (hnr : ¬s.NoRefusalOn p) :
    ∃ q e, s.FirstRefused p q e := by
  induction p using List.reverseRecOn with
  | nil =>
    simp only [NoRefusalOn, List.prefix_nil, forall_eq, hwf.root] at hnr
    exact absurd (fun h => (Option.some_ne_none _ h).elim) hnr
  | append_singleton h x ih =>
    by_cases hh : s.NoRefusalOn h
    · simp only [NoRefusalOn, not_forall] at hnr
      obtain ⟨q, hq, hg, hr⟩ := hnr
      obtain ⟨e, he⟩ := Option.ne_none_iff_exists'.mp hr
      rcases List.prefix_concat_iff.mp hq with rfl | hqh
      · exact ⟨_, e, ⟨List.prefix_rfl, hg, he, by rwa [List.dropLast_concat]⟩⟩
      · exact absurd (hh q hqh hg) hr
    · obtain ⟨q, e, hq⟩ := ih hh
      exact ⟨q, e, ⟨hq.along.trans (List.prefix_append h [x]), hq.missing, hq.refused, hq.before⟩⟩

/-- A regular file at `/holon`, below the root. -/
def fileAtHolon : Store := root.set ["holon"] (.file [])

theorem wellFormed_fileAtHolon : fileAtHolon.WellFormed :=
  wellFormed_root.set (by decide) rfl (.inr (by decide))

end Store

/-- The evidence directory's path at the default root passes every name check. -/
theorem validPath_evidence : ValidPath ["holon", "output", "evidence"] :=
  ⟨by decide, by decide, by decide, by decide⟩

section Lemmas

variable {ρ : Type} {s : Store} {r : ρ} {existOk : Bool} {p : FsPath}

theorem isOSError_exc (e : Errno) (p : FsPath) : (e.exc p).isOSError = true := by
  cases e <;> rfl

theorem isFileNotFoundError_exc (e : Errno) (p : FsPath) :
    (e.exc p).isFileNotFoundError = decide (e = .enoent) := by
  cases e <;> rfl

theorem isFileExistsError_exc (e : Errno) (p : FsPath) :
    (e.exc p).isFileExistsError = decide (e = .eexist) := by
  cases e <;> rfl

theorem Refusal.errno_ne_eexist (e : Refusal) : e.errno ≠ .eexist := by
  cases e <;> decide

theorem Refusal.errno_ne_enoent (e : Refusal) : e.errno ≠ .enoent := by
  cases e <;> decide

theorem mkdirExistOk_of_none (hn : hasNul p = false) (hpe : s.parentError p = none)
    (hg : s.get p = none) (hr : s.refusal p = none) :
    mkdirExistOk existOk p r s = .ok () (s.set p .dir) :=
  PyM.tryCatch_of_ok (mkdir_of_none hn hpe hg hr)

theorem mkdirExistOk_of_some {n : Node} (hn : hasNul p = false) (hpe : s.parentError p = none)
    (hg : s.get p = some n) :
    mkdirExistOk existOk p r s =
      if existOk = true ∧ n = .dir then .ok () s else .raised (Errno.eexist.exc p) s := by
  rw [mkdirExistOk, PyM.tryCatch_of_caught (mkdir_of_some hn hpe hg) (isOSError_exc _ _)]
  simp only [PyM.bind_apply, PyM.get_apply, Store.stat, hn, hpe, and_self, if_true, hg,
    Option.some.injEq, Bool.and_eq_true, decide_eq_true_eq]
  split_ifs <;> rfl

theorem mkdirExistOk_of_refused {e : Refusal} (hn : hasNul p = false) (hpe : s.parentError p = none)
    (hg : s.get p = none) (hr : s.refusal p = some e) :
    mkdirExistOk existOk p r s = .raised (e.errno.exc p) s := by
  rw [mkdirExistOk, PyM.tryCatch_of_caught (mkdir_of_refused hn hpe hg hr) (isOSError_exc _ _)]
  simp [PyM.bind_apply, Store.stat, hn, hpe, hg]

theorem mkdirExistOk_of_error {e : Errno} (hn : hasNul p = false) (hpe : s.parentError p = some e) :
    mkdirExistOk existOk p r s = .raised (e.exc p) s := by
  rw [mkdirExistOk, PyM.tryCatch_of_caught (mkdir_of_error hn hpe) (isOSError_exc _ _)]
  simp [PyM.bind_apply, Store.stat, hpe]

/-- `mkdir` with `exist_ok` makes the directory, or changes nothing. -/
theorem mkdirExistOk_state (p : FsPath) (r : ρ) (s : Store) :
    (mkdirExistOk existOk p r s).state = s ∨
      (mkdirExistOk existOk p r s).state = s.set p .dir ∧ s.parentError p = none := by
  rcases mkdir_cases p r s with ⟨e, he⟩ | ⟨-, hpe, -, -, hok⟩
  · refine .inl ?_
    unfold mkdirExistOk
    cases hc : e.isOSError
    · rw [PyM.tryCatch_of_uncaught he hc]; rfl
    · rw [PyM.tryCatch_of_caught he hc, PyM.bind_apply, PyM.get_apply]
      dsimp only
      split <;> rfl
  · exact .inr ⟨by rw [mkdirExistOk, PyM.tryCatch_of_ok hok]; rfl, hpe⟩

theorem makedirsRev_of_exists {x : String} {hRev : List String}
    (h : (s.stat hRev.reverse).isSome) :
    makedirsRev existOk (x :: hRev) r s = mkdirExistOk existOk (hRev.reverse ++ [x]) r s := by
  simp [makedirsRev, PyM.bind_apply, Option.isSome_iff_ne_none.mp h]

theorem makedirsRev_of_missing {x : String} {hRev : List String} (h : s.stat hRev.reverse = none) :
    makedirsRev existOk (x :: hRev) r s =
      (PyM.tryCatch PyExc.isFileExistsError (makedirsRev existOk hRev) (fun _ => pure ()) >>=
        fun _ => mkdirExistOk existOk (hRev.reverse ++ [x])) r s := by
  simp [makedirsRev, PyM.bind_apply, h]

theorem pathMkdirTry_of_none {k : PyExc → PyM ρ Store Unit} (hn : hasNul p = false)
    (hpe : s.parentError p = none) (hg : s.get p = none) (hr : s.refusal p = none) :
    pathMkdirTry existOk p k r s = .ok () (s.set p .dir) :=
  PyM.tryCatch_of_ok (mkdir_of_none hn hpe hg hr)

theorem pathMkdirTry_of_some {n : Node} {k : PyExc → PyM ρ Store Unit} (hn : hasNul p = false)
    (hpe : s.parentError p = none) (hg : s.get p = some n) :
    pathMkdirTry existOk p k r s =
      if existOk = true ∧ n = .dir then .ok () s else .raised (Errno.eexist.exc p) s := by
  rw [pathMkdirTry, PyM.tryCatch_of_caught (mkdir_of_some hn hpe hg) (isOSError_exc _ _)]
  simp only [isFileNotFoundError_exc, reduceCtorEq, decide_False, Bool.false_eq_true, if_false,
    PyM.bind_apply, PyM.get_apply, Store.stat, hn, hpe, and_self, if_true, hg, Option.some.injEq,
    Bool.and_eq_true, decide_eq_true_eq]
  split_ifs <;> rfl

theorem pathMkdirTry_of_refused {e : Refusal} {k : PyExc → PyM ρ Store Unit}
    (hn : hasNul p = false) (hpe : s.parentError p = none) (hg : s.get p = none)
    (hr : s.refusal p = some e) : pathMkdirTry existOk p k r s = .raised (e.errno.exc p) s := by
  rw [pathMkdirTry, PyM.tryCatch_of_caught (mkdir_of_refused hn hpe hg hr) (isOSError_exc _ _),
    isFileNotFoundError_exc, decide_eq_false e.errno_ne_enoent]
  simp [PyM.bind_apply, Store.stat, hn, hpe, hg]

theorem pathMkdirTry_of_error {e : Errno} {k : PyExc → PyM ρ Store Unit} (hn : hasNul p = false)
    (hpe : s.parentError p = some e) :
    pathMkdirTry existOk p k r s =
      if e = .enoent then k (e.exc p) r s else .raised (e.exc p) s := by
  rw [pathMkdirTry, PyM.tryCatch_of_caught (mkdir_of_error hn hpe) (isOSError_exc _ _),
    isFileNotFoundError_exc]
  cases e <;> simp [PyM.bind_apply, Store.stat, hpe]

/-- `Path.mkdir`'s `try` makes the directory, changes nothing, or hands over to its handler. -/
theorem pathMkdirTry_state (existOk : Bool) {k : PyExc → PyM ρ Store Unit} (p : FsPath) (r : ρ)
    (s : Store) :
    (pathMkdirTry existOk p k r s).state = s ∨
      ((pathMkdirTry existOk p k r s).state = s.set p .dir ∧ s.parentError p = none) ∨
      ∃ e, pathMkdirTry existOk p k r s = k e r s := by
  rcases mkdir_cases p r s with ⟨e, he⟩ | ⟨-, hpe, -, -, hok⟩
  · unfold pathMkdirTry
    cases hc : e.isOSError
    · rw [PyM.tryCatch_of_uncaught he hc]; exact .inl rfl
    · rw [PyM.tryCatch_of_caught he hc]
      split
      · exact .inr (.inr ⟨e, rfl⟩)
      · refine .inl ?_
        rw [PyM.bind_apply, PyM.get_apply]
        dsimp only
        split <;> rfl
  · exact .inr (.inl ⟨by rw [pathMkdirTry, PyM.tryCatch_of_ok hok]; rfl, hpe⟩)

/-- The parent of a valid path below the directories up to `h` resolves. -/
theorem Store.DirsTo.parentError {t : Store} {h : FsPath} {x : String} (ht : s.DirsTo t h)
    (hv : ValidPath (h ++ [x])) : t.parentError (h ++ [x]) = none := by
  rw [Store.parentError_of_valid hv, List.dropLast_concat]
  exact Store.walkDirs_of_dirs (fun y hy => hv.names y (List.mem_append_left _ hy))
    fun q hq _ => by rw [List.nil_append, ht.get, if_pos hq]

/-- Below a missing directory, nothing: the directories up to the parent leave the path missing. -/
theorem Store.WellFormed.get_below_missing (hwf : s.WellFormed) {h : FsPath} {x : String}
    (hg : s.get h = none) : s.get (h ++ [x]) = none :=
  hwf.get_eq_none (List.prefix_append _ _) (by simp) (by rw [hg]; exact Option.noConfusion)

theorem Store.DirsTo.get_of_missing {t : Store} {h : FsPath} {x : String} (hwf : s.WellFormed)
    (ht : s.DirsTo t h) (hg : s.get h = none) : t.get (h ++ [x]) = none := by
  rw [ht.get, if_neg fun hp => by
    have := hp.length_le
    simp only [List.length_append, List.length_singleton] at this
    omega]
  exact hwf.get_below_missing hg

theorem append_singleton_not_prefix_self (o : FsPath) (x : String) : ¬o ++ [x] <+: o := fun h => by
  have := h.length_le
  rw [List.length_append, List.length_singleton] at this
  omega

theorem length_lt_of_prefix {q h : FsPath} (hq : q <+: h) (hne : q ≠ h) : q.length < h.length :=
  lt_of_le_of_ne hq.length_le fun hl => hne (hq.eq_of_length hl)

/-- One `mkdir` more, from the directories up to a prefix `o` of its path: the directories up to
a prefix still. -/
theorem Store.WellFormed.dirsTo_of_mkdir (hwf : s.WellFormed) {t u : Store} {o p : FsPath}
    (ht : s.DirsTo t o) (ho : o <+: p) (hu : u = t ∨ u = t.set p .dir ∧ t.parentError p = none) :
    ∃ q, q <+: p ∧ s.DirsTo u q := by
  rcases hu with rfl | ⟨rfl, hpe⟩
  · exact ⟨o, ho, ht⟩
  · exact ⟨p, List.prefix_rfl, ht.trans ((hwf.dirsTo ht).dirsTo_set hpe) ho⟩

/-- `Path.mkdir`'s `try` with nothing more in its handler makes the directory or changes nothing. -/
theorem pathMkdirTry_raise_state (p : FsPath) (r : ρ) (s : Store) :
    (pathMkdirTry existOk p PyM.raise r s).state = s ∨
      (pathMkdirTry existOk p PyM.raise r s).state = s.set p .dir ∧ s.parentError p = none := by
  rcases pathMkdirTry_state existOk (k := PyM.raise) p r s with h | h | ⟨e, h⟩
  · exact .inl h
  · exact .inr h
  · exact .inl (by rw [h]; rfl)

end Lemmas

/-! ## `os.makedirs` -/

section Makedirs

variable {ρ : Type} {s : Store} {r : ρ} {existOk : Bool}

/-- **Whatever it raises**, `os.makedirs` has made exactly the missing directories down to a prefix
of its path. -/
theorem makedirsRev_dirsTo (hwf : s.WellFormed) (existOk : Bool) (rev : List String) :
    ∃ q, q <+: rev.reverse ∧ s.DirsTo (makedirsRev existOk rev r s).state q := by
  have last : ∀ {t : Store} {o p : FsPath}, s.DirsTo t o → o <+: p →
      ∃ q, q <+: p ∧ s.DirsTo (mkdirExistOk existOk p r t).state q := fun ht ho =>
    hwf.dirsTo_of_mkdir ht ho (mkdirExistOk_state _ r _)
  cases rev with
  | nil => exact last (Store.dirsTo_self hwf hwf.root) List.nil_prefix
  | cons x hRev =>
    rw [List.reverse_cons]
    cases hst : s.stat hRev.reverse with
    | some n =>
      rw [makedirsRev_of_exists (by rw [hst]; rfl)]
      exact last (Store.dirsTo_self hwf hwf.root) List.nil_prefix
    | none =>
      obtain ⟨o, ho, ht⟩ := makedirsRev_dirsTo hwf existOk hRev
      have hto : (PyM.tryCatch PyExc.isFileExistsError (makedirsRev existOk hRev) (fun _ => pure ())
          r s).state = (makedirsRev existOk hRev r s).state := PyM.tryCatch_pure_state _ r s
      rw [makedirsRev_of_missing hst, PyM.bind_apply]
      have ho' : o <+: hRev.reverse ++ [x] := ho.trans (List.prefix_append _ _)
      split
      · rename_i t h
        rw [h, Res.state_ok] at hto
        exact last (hto ▸ ht) ho'
      · rename_i e t h
        rw [h, Res.state_raised] at hto
        exact ⟨o, ho', hto ▸ ht⟩

theorem makedirsRev_ok (hwf : s.WellFormed) (rev : List String) (existOk : Bool)
    (hv : ValidPath rev.reverse)
    (hnf : s.NoFileOn rev.reverse) (hnr : s.NoRefusalOn rev.reverse)
    (hex : existOk = true ∨ s.get rev.reverse = none) :
    ∃ t, makedirsRev existOk rev r s = .ok () t ∧ s.DirsTo t rev.reverse := by
  induction rev with
  | nil =>
    have he : existOk = true := hex.resolve_right (by rw [List.reverse_nil, hwf.root]; simp)
    have hpe : s.parentError [] = none := rfl
    exact ⟨s, by rw [makedirsRev, mkdirExistOk_of_some (p := []) rfl hpe hwf.root, if_pos ⟨he, rfl⟩],
      Store.dirsTo_self hwf hwf.root⟩
  | cons x hRev ih =>
    rw [List.reverse_cons] at hv hnf hnr hex ⊢
    have hnfh := hnf.mono (List.prefix_append hRev.reverse [x])
    match hg : s.get hRev.reverse with
    | none =>
      obtain ⟨t, ht, hdt⟩ := ih (hv.mono (List.prefix_append _ _)) hnfh
        (hnr.mono (List.prefix_append _ _)) (.inr hg)
      have hn := hwf.get_below_missing (x := x) hg
      refine ⟨_, ?_, hdt.set⟩
      rw [makedirsRev_of_missing (by rw [Store.stat_eq_get hwf (hv.mono (List.prefix_append _ _)), hg]),
        PyM.bind_of_ok (PyM.tryCatch_of_ok ht),
        mkdirExistOk_of_none hv.noNul (hdt.parentError hv) (hdt.get_of_missing hwf hg)
          (by rw [hdt.refusal]; exact hnr _ List.prefix_rfl hn)]
    | some .dir =>
      have hpe : s.parentError (hRev.reverse ++ [x]) = none :=
        Store.parentError_of_dir hwf hv (by rw [List.dropLast_concat, hg])
      rw [makedirsRev_of_exists (by rw [Store.stat_eq_get hwf (hv.mono (List.prefix_append _ _)), hg]; rfl)]
      match hn : s.get (hRev.reverse ++ [x]) with
      | none =>
        exact ⟨_, mkdirExistOk_of_none hv.noNul hpe hn (hnr _ List.prefix_rfl hn),
          (Store.dirsTo_self hwf hg).set⟩
      | some .dir =>
        have he : existOk = true := hex.resolve_right (by rw [hn]; simp)
        exact ⟨s, by rw [mkdirExistOk_of_some hv.noNul hpe hn, if_pos ⟨he, rfl⟩],
          Store.dirsTo_self hwf hn⟩
      | some (.file b) => exact absurd hn (hnf _ b List.prefix_rfl)
    | some (.file b) => exact absurd hg (hnfh _ b List.prefix_rfl)

/-- `os.makedirs` on an existing directory: nothing, with `exist_ok`; else `FileExistsError`. -/
theorem makedirsRev_of_dir (hwf : s.WellFormed) (rev : List String) (hv : ValidPath rev.reverse)
    (hd : s.get rev.reverse = some .dir) :
    makedirsRev existOk rev r s =
      if existOk = true then .ok () s else .raised (Errno.eexist.exc rev.reverse) s := by
  cases rev with
  | nil =>
    rw [makedirsRev, mkdirExistOk_of_some (p := []) rfl rfl hd]
    cases existOk <;> rfl
  | cons x hRev =>
    rw [List.reverse_cons] at hd hv ⊢
    have hgh := hwf.parent _ _ (by rw [hd]; simp)
    rw [makedirsRev_of_exists (by rw [Store.stat_eq_get hwf (hv.mono (List.prefix_append _ _)), hgh]; rfl),
      mkdirExistOk_of_some hv.noNul (Store.parentError_of_dir hwf hv (by rw [List.dropLast_concat, hgh])) hd]
    cases existOk <;> rfl

theorem makedirsRev_file (hwf : s.WellFormed) (rev : List String) (hv : ValidPath rev.reverse)
    {q : FsPath} {b : Bytes} (hq : q <+: rev.reverse) (hf : s.get q = some (.file b)) :
    makedirsRev existOk rev r s = .raised ((if q = rev.reverse then Errno.eexist else Errno.enotdir).exc
      (rev.reverse.take (q.length + 1))) s := by
  induction rev with
  | nil =>
    rw [List.reverse_nil, List.prefix_nil] at hq
    subst hq
    rw [hwf.root] at hf
    cases hf
  | cons x hRev ih =>
    rw [List.reverse_cons] at hq hv ⊢
    have hvh := hv.mono (List.prefix_append hRev.reverse [x])
    rcases List.prefix_concat_iff.mp hq with rfl | hqh
    · have hgh := hwf.parent _ _ (by rw [hf]; simp)
      rw [makedirsRev_of_exists (by rw [Store.stat_eq_get hwf hvh, hgh]; rfl),
        mkdirExistOk_of_some hv.noNul (Store.parentError_of_dir hwf hv (by rw [List.dropLast_concat, hgh])) hf,
        if_neg (by simp), if_pos rfl, List.take_of_length_le (by omega)]
    · by_cases hqe : q = hRev.reverse
      · subst hqe
        rw [makedirsRev_of_exists (by rw [Store.stat_eq_get hwf hvh, hf]; rfl),
          mkdirExistOk_of_error hv.noNul (Store.parentError_of_file hwf hv
            ⟨[], by rw [List.append_nil, List.dropLast_concat]⟩ hf),
          if_neg (by simp), List.take_of_length_le (by simp)]
      · -- the file is above the parent: the recursion raises, and nothing catches it
        have hlt := length_lt_of_prefix hqh hqe
        have hne : q ≠ hRev.reverse ++ [x] := fun he => by
          rw [he, List.length_append, List.length_singleton] at hlt
          omega
        have hmiss : s.stat hRev.reverse = none := by
          rw [Store.stat_eq_get hwf hvh, hwf.get_eq_none hqh hqe (by simp [hf])]
        rw [makedirsRev_of_missing hmiss,
          PyM.bind_of_raised (PyM.tryCatch_of_uncaught (ih hvh hqh) (by simp [isFileExistsError_exc, hqe])),
          if_neg hqe, if_neg hne, List.take_append_of_le_length (by omega)]

theorem makedirsRev_refused (hwf : s.WellFormed) (rev : List String) (hv : ValidPath rev.reverse)
    (hnf : s.NoFileOn rev.reverse) {q : FsPath} {e : Refusal} (hq : s.FirstRefused rev.reverse q e) :
    ∃ t, makedirsRev existOk rev r s = .raised (e.errno.exc q) t ∧ s.DirsTo t q.dropLast := by
  induction rev with
  | nil =>
    have := hq.missing
    rw [List.prefix_nil.mp hq.along, hwf.root] at this
    cases this
  | cons x hRev ih =>
    rw [List.reverse_cons] at hv hnf hq
    have hvh := hv.mono (List.prefix_append hRev.reverse [x])
    have hnfh := hnf.mono (List.prefix_append hRev.reverse [x])
    rcases List.prefix_concat_iff.mp hq.along with rfl | hqh
    · have hbefore := hq.before
      rw [List.dropLast_concat] at hbefore ⊢
      match hg : s.get hRev.reverse with
      | none =>
        obtain ⟨t, ht, hdt⟩ := makedirsRev_ok (r := r) hwf hRev existOk hvh hnfh hbefore
          (.inr hg)
        refine ⟨t, ?_, hdt⟩
        rw [makedirsRev_of_missing (by rw [Store.stat_eq_get hwf hvh, hg]),
          PyM.bind_of_ok (PyM.tryCatch_of_ok ht),
          mkdirExistOk_of_refused hv.noNul (hdt.parentError hv) (hdt.get_of_missing hwf hg)
            (by rw [hdt.refusal]; exact hq.refused)]
      | some .dir =>
        exact ⟨s, by
          rw [makedirsRev_of_exists (by rw [Store.stat_eq_get hwf hvh, hg]; rfl),
            mkdirExistOk_of_refused hv.noNul (Store.parentError_of_dir hwf hv
              (by rw [List.dropLast_concat, hg])) hq.missing hq.refused],
          Store.dirsTo_self hwf hg⟩
      | some (.file b) => exact absurd hg (hnfh _ b List.prefix_rfl)
    · -- the refused directory is above the parent: the recursion raises, and nothing catches it
      have hg : s.get hRev.reverse = none := by
        by_cases hqe : q = hRev.reverse
        · rw [← hqe]; exact hq.missing
        · exact hwf.get_eq_none hqh hqe (by rw [hq.missing]; exact Option.noConfusion)
      obtain ⟨t, ht, hdt⟩ := ih hvh hnfh ⟨hqh, hq.missing, hq.refused, hq.before⟩
      refine ⟨t, ?_, hdt⟩
      rw [makedirsRev_of_missing (by rw [Store.stat_eq_get hwf hvh, hg]),
        PyM.bind_of_raised (PyM.tryCatch_of_uncaught ht
          (by rw [isFileExistsError_exc, decide_eq_false e.errno_ne_eexist]))]

end Makedirs

/-! ## `Path.mkdir(parents=True)` -/

section PathMkdir

variable {ρ : Type} {s : Store} {r : ρ}

theorem pathMkdirRev_cons (parents existOk : Bool) (x : String) (pRev : List String) :
    pathMkdirRev (ρ := ρ) parents existOk (x :: pRev) =
      pathMkdirTry existOk (pRev.reverse ++ [x]) fun e =>
        if parents then do
          pathMkdirRev true true pRev
          pathMkdirTry existOk (pRev.reverse ++ [x]) PyM.raise
        else PyM.raise e := by
  rw [pathMkdirRev, List.reverse_cons]

/-- Below a missing parent, `Path.mkdir(parents=True)` makes the parent, then tries again. -/
theorem pathMkdirRev_of_missing {existOk : Bool} {x : String} {pRev : List String}
    (hn : hasNul (pRev.reverse ++ [x]) = false)
    (hpe : s.parentError (pRev.reverse ++ [x]) = some .enoent) :
    pathMkdirRev true existOk (x :: pRev) r s =
      (pathMkdirRev true true pRev >>= fun _ => pathMkdirTry existOk (pRev.reverse ++ [x]) PyM.raise) r s := by
  rw [pathMkdirRev_cons, pathMkdirTry_of_error hn hpe, if_pos rfl, if_pos rfl]

/-- **Whatever it raises**, `Path.mkdir` has made exactly the missing directories down to a prefix
of its path. -/
theorem pathMkdirRev_dirsTo (hwf : s.WellFormed) (parents existOk : Bool) (rev : List String) :
    ∃ q, q <+: rev.reverse ∧ s.DirsTo (pathMkdirRev parents existOk rev r s).state q := by
  induction rev generalizing parents existOk with
  | nil =>
    rcases pathMkdirTry_state existOk (k := PyM.raise) [] r s with h | h | ⟨e, h⟩
    · exact hwf.dirsTo_of_mkdir (Store.dirsTo_self hwf hwf.root) List.nil_prefix (.inl h)
    · exact hwf.dirsTo_of_mkdir (Store.dirsTo_self hwf hwf.root) List.nil_prefix (.inr h)
    · exact ⟨[], List.nil_prefix, by rw [pathMkdirRev, h]; exact Store.dirsTo_self hwf hwf.root⟩
  | cons x hRev ih =>
    rw [pathMkdirRev_cons, List.reverse_cons]
    have hs := Store.dirsTo_self hwf hwf.root
    rcases pathMkdirTry_state existOk (hRev.reverse ++ [x]) r s with h | h | ⟨e, h⟩
    · exact hwf.dirsTo_of_mkdir hs List.nil_prefix (.inl h)
    · exact hwf.dirsTo_of_mkdir hs List.nil_prefix (.inr h)
    rw [h]
    split
    · -- the parent made, then the path tried again
      obtain ⟨o, ho, ht⟩ := ih true true
      have ho' : o <+: hRev.reverse ++ [x] := ho.trans (List.prefix_append _ _)
      rw [PyM.bind_apply]
      split
      · rename_i t hok
        rw [hok, Res.state_ok] at ht
        exact hwf.dirsTo_of_mkdir ht ho' (pathMkdirTry_raise_state _ r t)
      · rename_i e' t hr
        rw [hr, Res.state_raised] at ht
        exact ⟨o, ho', ht⟩
    · exact ⟨[], List.nil_prefix, hs⟩

theorem pathMkdirRev_ok (hwf : s.WellFormed) (rev : List String) (existOk : Bool)
    (hv : ValidPath rev.reverse) (hnf : s.NoFileOn rev.reverse) (hnr : s.NoRefusalOn rev.reverse)
    (hex : existOk = true ∨ s.get rev.reverse = none) :
    ∃ t, pathMkdirRev true existOk rev r s = .ok () t ∧ s.DirsTo t rev.reverse := by
  induction rev generalizing existOk with
  | nil =>
    have he : existOk = true := hex.resolve_right (by rw [List.reverse_nil, hwf.root]; simp)
    have hpe : s.parentError [] = none := rfl
    exact ⟨s, by rw [pathMkdirRev, pathMkdirTry_of_some (p := []) rfl hpe hwf.root, if_pos ⟨he, rfl⟩],
      Store.dirsTo_self hwf hwf.root⟩
  | cons x hRev ih =>
    rw [List.reverse_cons] at hv hnf hnr hex ⊢
    have hvh := hv.mono (List.prefix_append hRev.reverse [x])
    have hnfh := hnf.mono (List.prefix_append hRev.reverse [x])
    match hg : s.get hRev.reverse with
    | none =>
      obtain ⟨t, ht, hdt⟩ := ih true hvh hnfh (hnr.mono (List.prefix_append _ _)) (.inl rfl)
      have hpe : s.parentError (hRev.reverse ++ [x]) = some .enoent :=
        Store.parentError_of_missing hwf hv (by rw [List.dropLast_concat]; exact hnfh)
          (by rw [List.dropLast_concat, hg]; simp)
      refine ⟨_, ?_, hdt.set⟩
      rw [pathMkdirRev_of_missing hv.noNul hpe, PyM.bind_of_ok ht,
        pathMkdirTry_of_none hv.noNul (hdt.parentError hv) (hdt.get_of_missing hwf hg)
          (by rw [hdt.refusal]; exact hnr _ List.prefix_rfl (hwf.get_below_missing hg))]
    | some .dir =>
      have hpe : s.parentError (hRev.reverse ++ [x]) = none :=
        Store.parentError_of_dir hwf hv (by rw [List.dropLast_concat, hg])
      rw [pathMkdirRev_cons]
      match hn : s.get (hRev.reverse ++ [x]) with
      | none =>
        exact ⟨_, pathMkdirTry_of_none hv.noNul hpe hn (hnr _ List.prefix_rfl hn),
          (Store.dirsTo_self hwf hg).set⟩
      | some .dir =>
        have he : existOk = true := hex.resolve_right (by rw [hn]; simp)
        exact ⟨s, by rw [pathMkdirTry_of_some hv.noNul hpe hn, if_pos ⟨he, rfl⟩],
          Store.dirsTo_self hwf hn⟩
      | some (.file b) => exact absurd hn (hnf _ b List.prefix_rfl)
    | some (.file b) => exact absurd hg (hnfh _ b List.prefix_rfl)

/-- `Path.mkdir` on an existing directory: nothing, with `exist_ok`; else `FileExistsError`. -/
theorem pathMkdirRev_of_dir (hwf : s.WellFormed) (rev : List String) (existOk : Bool)
    (hv : ValidPath rev.reverse) (hd : s.get rev.reverse = some .dir) :
    pathMkdirRev true existOk rev r s =
      if existOk = true then .ok () s else .raised (Errno.eexist.exc rev.reverse) s := by
  cases rev with
  | nil =>
    rw [pathMkdirRev, pathMkdirTry_of_some (p := []) rfl rfl hd]
    cases existOk <;> rfl
  | cons x hRev =>
    rw [List.reverse_cons] at hd hv ⊢
    have hgh := hwf.parent _ _ (by rw [hd]; simp)
    rw [pathMkdirRev_cons, pathMkdirTry_of_some hv.noNul
      (Store.parentError_of_dir hwf hv (by rw [List.dropLast_concat, hgh])) hd]
    cases existOk <;> rfl

theorem pathMkdirRev_file (hwf : s.WellFormed) (rev : List String) (existOk : Bool)
    (hv : ValidPath rev.reverse) {q : FsPath} {b : Bytes} (hq : q <+: rev.reverse)
    (hf : s.get q = some (.file b)) :
    pathMkdirRev true existOk rev r s =
      .raised ((if q = rev.reverse then Errno.eexist else Errno.enotdir).exc rev.reverse) s := by
  cases rev with
  | nil =>
    rw [List.prefix_nil.mp hq, hwf.root] at hf
    cases hf
  | cons x hRev =>
    rw [List.reverse_cons] at hq hv ⊢
    rw [pathMkdirRev_cons]
    rcases List.prefix_concat_iff.mp hq with rfl | hqh
    · have hgh := hwf.parent _ _ (by rw [hf]; simp)
      rw [pathMkdirTry_of_some hv.noNul
          (Store.parentError_of_dir hwf hv (by rw [List.dropLast_concat, hgh])) hf,
        if_neg (by simp), if_pos rfl]
    · have hne : q ≠ hRev.reverse ++ [x] := fun he => by
        have := hqh.length_le
        rw [he, List.length_append, List.length_singleton] at this
        omega
      rw [pathMkdirTry_of_error hv.noNul (Store.parentError_of_file hwf hv
          (by rw [List.dropLast_concat]; exact hqh) hf), if_neg (by simp), if_neg hne]

theorem pathMkdirRev_refused (hwf : s.WellFormed) (rev : List String) (existOk : Bool)
    (hv : ValidPath rev.reverse) (hnf : s.NoFileOn rev.reverse) {q : FsPath} {e : Refusal}
    (hq : s.FirstRefused rev.reverse q e) :
    ∃ t, pathMkdirRev true existOk rev r s = .raised (e.errno.exc q) t ∧ s.DirsTo t q.dropLast := by
  induction rev generalizing existOk with
  | nil =>
    have := hq.missing
    rw [List.prefix_nil.mp hq.along, hwf.root] at this
    cases this
  | cons x hRev ih =>
    rw [List.reverse_cons] at hv hnf hq
    have hvh := hv.mono (List.prefix_append hRev.reverse [x])
    have hnfh := hnf.mono (List.prefix_append hRev.reverse [x])
    have hmiss : s.get hRev.reverse = none → s.parentError (hRev.reverse ++ [x]) = some .enoent :=
      fun hg => Store.parentError_of_missing hwf hv (by rw [List.dropLast_concat]; exact hnfh)
        (by rw [List.dropLast_concat, hg]; simp)
    rcases List.prefix_concat_iff.mp hq.along with rfl | hqh
    · have hbefore := hq.before
      rw [List.dropLast_concat] at hbefore ⊢
      match hg : s.get hRev.reverse with
      | none =>
        obtain ⟨t, ht, hdt⟩ := pathMkdirRev_ok (r := r) hwf hRev true hvh hnfh hbefore (.inl rfl)
        refine ⟨t, ?_, hdt⟩
        rw [pathMkdirRev_of_missing hv.noNul (hmiss hg), PyM.bind_of_ok ht,
          pathMkdirTry_of_refused hv.noNul (hdt.parentError hv) (hdt.get_of_missing hwf hg)
            (by rw [hdt.refusal]; exact hq.refused)]
      | some .dir =>
        exact ⟨s, by
          rw [pathMkdirRev_cons, pathMkdirTry_of_refused hv.noNul (Store.parentError_of_dir hwf hv
            (by rw [List.dropLast_concat, hg])) hq.missing hq.refused],
          Store.dirsTo_self hwf hg⟩
      | some (.file b) => exact absurd hg (hnfh _ b List.prefix_rfl)
    · -- the refused directory is above the parent: the parent's `mkdir` raises
      have hg : s.get hRev.reverse = none := by
        by_cases hqe : q = hRev.reverse
        · rw [← hqe]; exact hq.missing
        · exact hwf.get_eq_none hqh hqe (by rw [hq.missing]; exact Option.noConfusion)
      obtain ⟨t, ht, hdt⟩ := ih true hvh hnfh ⟨hqh, hq.missing, hq.refused, hq.before⟩
      exact ⟨t, by rw [pathMkdirRev_of_missing hv.noNul (hmiss hg), PyM.bind_of_raised ht], hdt⟩

end PathMkdir

/-! ## `ensure_directories` against `run_adapter`

Both create `output`, then `output/evidence`, with `exist_ok=True`.  With that flag the two
creators meet the same description, `CreatesDirs`, so that what the pair of calls does follows
from it once, whichever creator makes them. -/

namespace Store

/-- Two stores no call tells apart: the same node at every path, the same refusals and room. -/
structure Equiv (s t : Store) : Prop where
  get : ∀ q, s.get q = t.get q
  refusal : s.refusal = t.refusal
  room : s.room = t.room

theorem Equiv.refl (s : Store) : s.Equiv s := ⟨fun _ => rfl, rfl, rfl⟩

/-- The directories up to one path, made from one store twice, make stores no call tells apart. -/
theorem DirsTo.equiv {s t u : Store} {p : FsPath} (ht : s.DirsTo t p) (hu : s.DirsTo u p) :
    t.Equiv u :=
  ⟨fun q => (ht.get q).trans (hu.get q).symm, ht.refusal.trans hu.refusal.symm,
    ht.room.trans hu.room.symm⟩

end Store

/-- What a creator of directories called with `exist_ok=True` does in a tree, on a path no name
check refuses: with no regular file on the path and no refusal, it makes the missing directories
of the path and nothing else, and on a directory nothing at all; with a regular file, it raises
`FileExistsError` if that file is the path itself and `NotADirectoryError` otherwise, and changes
nothing; at the first missing prefix the kernel refuses, it raises the kernel's error naming that
prefix, with the directories above it made. -/
def CreatesDirs {ρ : Type} (create : FsPath → PyM ρ Store Unit) : Prop :=
  ∀ s : Store, s.WellFormed → ∀ name r, ValidPath name →
    (s.NoFileOn name → s.NoRefusalOn name → ∃ t, create name r s = .ok () t ∧ s.DirsTo t name) ∧
    (s.get name = some .dir → create name r s = .ok () s) ∧
    (∀ q b, q <+: name → s.get q = some (.file b) → ∃ e, create name r s = .raised e s ∧
      e.cls = .exception (if q = name then "FileExistsError" else "NotADirectoryError")) ∧
    (s.NoFileOn name → ∀ q e, s.FirstRefused name q e →
      ∃ t, create name r s = .raised (e.errno.exc q) t ∧ s.DirsTo t q.dropLast)

/-- What creating `o`, then `o/x`, may end in, from a tree `s`: the directories up to `o/x` when
no regular file and no refusal is on that path; `FileExistsError` when a regular file is `o` or
`o/x`, `NotADirectoryError` when it is above `o`, with the store unchanged; the kernel's error
at the first missing prefix it refuses, with the directories above that prefix made. -/
def PairOutcome (s : Store) (o : FsPath) (x : String) (res : Res Store Unit) : Prop :=
  (s.NoFileOn (o ++ [x]) → s.NoRefusalOn (o ++ [x]) →
    ∃ t, res = .ok () t ∧ s.DirsTo t (o ++ [x])) ∧
  (∀ q b, q <+: o ++ [x] → s.get q = some (.file b) → ∃ e, res = .raised e s ∧
    e.cls = .exception (if q = o ∨ q = o ++ [x] then "FileExistsError" else "NotADirectoryError")) ∧
  (s.NoFileOn (o ++ [x]) → ∀ q e, s.FirstRefused (o ++ [x]) q e →
    ∃ t, res = .raised (e.errno.exc q) t ∧ s.DirsTo t q.dropLast)

/-- Two outcomes of statements agree: both return the same value, or both raise an exception of
the same class (the texts may differ), and their stores are related by `R`. -/
def Res.Agrees {σ α : Type} (R : σ → σ → Prop) : Res σ α → Res σ α → Prop
  | .ok a s, .ok b t => a = b ∧ R s t
  | .raised e s, .raised e' t => e.cls = e'.cls ∧ R s t
  | _, _ => False

section Pair

variable {ρ : Type} {s : Store} {r : ρ}

theorem cls_exc_ite (c : Prop) [Decidable c] (p : FsPath) :
    ((if c then Errno.eexist else Errno.enotdir).exc p).cls =
      .exception (if c then "FileExistsError" else "NotADirectoryError") := by
  split_ifs <;> rfl

theorem makedirs_createsDirs : CreatesDirs (ρ := ρ) (makedirs · true) := fun s hwf name r hv => by
  obtain ⟨rev, rfl⟩ : ∃ rev, name = rev.reverse := ⟨name.reverse, (List.reverse_reverse name).symm⟩
  simp only [makedirs, List.reverse_reverse]
  exact ⟨fun hnf hnr => makedirsRev_ok hwf rev true hv hnf hnr (.inl rfl),
    fun hd => makedirsRev_of_dir hwf rev hv hd,
    fun q b hq hf => ⟨_, makedirsRev_file hwf rev hv hq hf, cls_exc_ite _ _⟩,
    fun hnf q e => makedirsRev_refused hwf rev hv hnf⟩

theorem pathMkdir_createsDirs : CreatesDirs (ρ := ρ) (pathMkdir true true) := fun s hwf name r hv => by
  obtain ⟨rev, rfl⟩ : ∃ rev, name = rev.reverse := ⟨name.reverse, (List.reverse_reverse name).symm⟩
  simp only [pathMkdir, List.reverse_reverse]
  exact ⟨fun hnf hnr => pathMkdirRev_ok hwf rev true hv hnf hnr (.inl rfl),
    fun hd => pathMkdirRev_of_dir hwf rev true hv hd,
    fun q b hq hf => ⟨_, pathMkdirRev_file hwf rev true hv hq hf, cls_exc_ite _ _⟩,
    fun hnf q e => pathMkdirRev_refused hwf rev true hv hnf⟩

/-- **Creating a directory, then one below it**, with any creator that meets `CreatesDirs`. -/
theorem CreatesDirs.pair {create : FsPath → PyM ρ Store Unit} (hc : CreatesDirs create)
    (hwf : s.WellFormed) {o : FsPath} {x : String} (hv : ValidPath (o ++ [x])) :
    PairOutcome s o x ((do create o; create (o ++ [x])) r s) := by
  have ho := List.prefix_append o [x]
  have hvo := hv.mono ho
  refine ⟨fun hnf hnr => ?_, fun q b hq hf => ?_, fun hnf q e hq => ?_⟩
  · obtain ⟨t, ht, hdt⟩ := (hc s hwf o r hvo).1 (hnf.mono ho) (hnr.mono ho)
    obtain ⟨u, hu, hdu⟩ := (hc t (hwf.dirsTo hdt) _ r hv).1 (hnf.dirsTo hdt) fun q hq hg => by
      rw [hdt.refusal]
      exact hnr q hq (by rw [hdt.get] at hg; split_ifs at hg; exact hg)
    exact ⟨u, by rw [PyM.bind_of_ok ht, hu], hdt.trans hdu ho⟩
  · rcases List.prefix_concat_iff.mp hq with rfl | hqo
    · -- the file is `o/x`: `o` is a directory already, and the second call raises
      have hdo : s.get o = some .dir := hwf.parent _ _ (by rw [hf]; simp)
      obtain ⟨e, he, hcls⟩ := (hc s hwf _ r hv).2.2.1 _ b List.prefix_rfl hf
      exact ⟨e, by rw [PyM.bind_of_ok ((hc s hwf o r hvo).2.1 hdo), he],
        by rw [hcls, if_pos rfl, if_pos (.inr rfl)]⟩
    · -- the file is on `o`: the first call raises
      obtain ⟨e, he, hcls⟩ := (hc s hwf o r hvo).2.2.1 q b hqo hf
      have hne : q ≠ o ++ [x] := fun h => by
        have := hqo.length_le
        rw [h, List.length_append, List.length_singleton] at this
        omega
      exact ⟨e, by rw [PyM.bind_of_raised he], by rw [hcls]; simp [hne]⟩
  · rcases List.prefix_concat_iff.mp hq.along with rfl | hqo
    · -- the refused prefix is `o/x`: the first call makes `o`
      have hbefore := hq.before
      rw [List.dropLast_concat] at hbefore ⊢
      obtain ⟨t, ht, hdt⟩ := (hc s hwf o r hvo).1 (hnf.mono ho) hbefore
      obtain ⟨u, hu, hdu⟩ := (hc t (hwf.dirsTo hdt) _ r hv).2.2.2 (hnf.dirsTo hdt) _ e
        ⟨List.prefix_rfl, by rw [hdt.get, if_neg (append_singleton_not_prefix_self o x), hq.missing],
          by rw [hdt.refusal]; exact hq.refused,
          by rw [List.dropLast_concat]; exact fun q hq hg => by rw [hdt.get, if_pos hq] at hg; cases hg⟩
      rw [List.dropLast_concat] at hdu
      exact ⟨u, by rw [PyM.bind_of_ok ht, hu], hdt.trans hdu List.prefix_rfl⟩
    · -- the refused prefix is on `o`: the first call raises
      obtain ⟨t, ht, hdt⟩ := (hc s hwf o r hvo).2.2.2 (hnf.mono ho) q e
        ⟨hqo, hq.missing, hq.refused, hq.before⟩
      exact ⟨t, by rw [PyM.bind_of_raised ht], hdt⟩

/-- Two statements with the same possible outcomes agree, up to the text of an exception. -/
theorem PairOutcome.agrees {o : FsPath} {x : String} {a b : Res Store Unit} (hwf : s.WellFormed)
    (ha : PairOutcome s o x a) (hb : PairOutcome s o x b) : Res.Agrees Store.Equiv a b := by
  by_cases hnf : s.NoFileOn (o ++ [x])
  · by_cases hnr : s.NoRefusalOn (o ++ [x])
    · obtain ⟨t, rfl, ht⟩ := ha.1 hnf hnr
      obtain ⟨u, rfl, hu⟩ := hb.1 hnf hnr
      exact ⟨rfl, ht.equiv hu⟩
    · obtain ⟨q, e, hq⟩ := Store.exists_firstRefused hwf hnr
      obtain ⟨t, rfl, ht⟩ := ha.2.2 hnf q e hq
      obtain ⟨u, rfl, hu⟩ := hb.2.2 hnf q e hq
      exact ⟨rfl, ht.equiv hu⟩
  · obtain ⟨q, f, hq, hf⟩ : ∃ q f, q <+: o ++ [x] ∧ s.get q = some (.file f) := by
      simpa [Store.NoFileOn] using hnf
    obtain ⟨e, rfl, he⟩ := ha.2.1 q f hq hf
    obtain ⟨e', rfl, he'⟩ := hb.2.1 q f hq hf
    exact ⟨he.trans he'.symm, .refl s⟩

theorem absIn_evidenceDir (cwd : FsPath) (c : HolonConfig) :
    c.evidenceDir.absIn cwd = c.outputDir.absIn cwd ++ ["evidence"] := by
  rw [HolonConfig.evidenceDir, PurePath.div_part _ (by decide), PurePath.absIn, PurePath.absIn]
  split_ifs <;> simp

/-- **`ensure_directories`, at any root and from any working directory**, on paths no name check
refuses: the output and evidence directories are made exactly when no regular file and no refusal
is on the evidence path; a regular file on it raises `FileExistsError` (the file is one of the
two) or `NotADirectoryError` (it is above them) with the store unchanged; a refusal raises the
kernel's error at the first missing prefix refused, with the directories above it made. -/
theorem ensureDirectories_spec (cwd : FsPath) (c : HolonConfig) (hwf : s.WellFormed)
    (hv : ValidPath (c.evidenceDir.absIn cwd)) (r : ρ) :
    PairOutcome s (c.outputDir.absIn cwd) "evidence" (c.ensureDirectories cwd r s) := by
  rw [absIn_evidenceDir] at hv
  rw [HolonConfig.ensureDirectories, absIn_evidenceDir]
  exact pathMkdir_createsDirs.pair hwf hv

/-- **`ensure_directories` is idempotent**: once it has returned, calling it again returns and
changes nothing. -/
theorem ensureDirectories_idempotent (cwd : FsPath) (c : HolonConfig) (hwf : s.WellFormed)
    (hv : ValidPath (c.evidenceDir.absIn cwd)) {t : Store} (r : ρ)
    (h : c.ensureDirectories cwd r s = .ok () t) : c.ensureDirectories cwd r t = .ok () t := by
  have hpair := ensureDirectories_spec cwd c hwf hv r
  rw [absIn_evidenceDir] at hv
  by_cases hnf : s.NoFileOn (c.outputDir.absIn cwd ++ ["evidence"])
  · by_cases hnr : s.NoRefusalOn (c.outputDir.absIn cwd ++ ["evidence"])
    · obtain ⟨t', ht', hdt⟩ := hpair.1 hnf hnr
      obtain rfl : t = t' := by rw [h] at ht'; cases ht'; rfl
      have hwt := hwf.dirsTo hdt
      have hd : ∀ q, q <+: c.outputDir.absIn cwd ++ ["evidence"] → t.get q = some .dir :=
        fun q hq => by rw [hdt.get, if_pos hq]
      rw [HolonConfig.ensureDirectories, absIn_evidenceDir,
        PyM.bind_of_ok ((pathMkdir_createsDirs t hwt _ r (hv.mono (List.prefix_append _ _))).2.1
          (hd _ (List.prefix_append _ _)))]
      exact (pathMkdir_createsDirs t hwt _ r hv).2.1 (hd _ List.prefix_rfl)
    · obtain ⟨q, e, hq⟩ := Store.exists_firstRefused hwf hnr
      obtain ⟨t', he, -⟩ := hpair.2.2 hnf q e hq
      rw [h] at he
      cases he
  · obtain ⟨q, b, hq, hf⟩ : ∃ q b, q <+: c.outputDir.absIn cwd ++ ["evidence"] ∧
        s.get q = some (.file b) := by
      simpa [Store.NoFileOn] using hnf
    obtain ⟨e, he, -⟩ := hpair.2.1 q b hq hf
    rw [h] at he
    cases he

/-- **`ensure_directories` at the default root and `run_adapter`'s own two calls agree**: from any
tree and any working directory they succeed together, leaving stores no call tells apart, or
fail together with the same class of exception, from stores no call tells apart — only the text of
a `NotADirectoryError` differs. -/
theorem ensureDirectories_agrees_makeOutputDirs (cwd : FsPath) (hwf : s.WellFormed) (r : ρ) :
    Res.Agrees Store.Equiv (HolonConfig.ensureDirectories cwd ⟨"/holon"⟩ r s) (makeOutputDirs r s) := by
  have ho : (PurePath.parse outputDir).parts = ["holon", "output"] := by decide
  have he : (PurePath.parse evidenceDir).parts = ["holon", "output"] ++ ["evidence"] := by decide
  have hc : (HolonConfig.outputDir ⟨"/holon"⟩).absIn cwd = ["holon", "output"] := by
    rw [PurePath.absIn, if_neg (by decide)]
    decide
  rw [HolonConfig.ensureDirectories, absIn_evidenceDir, hc, makeOutputDirs, ho, he]
  exact (pathMkdir_createsDirs.pair hwf validPath_evidence).agrees hwf
    (makedirs_createsDirs.pair hwf validPath_evidence)

end Pair

end HolonAdapter
