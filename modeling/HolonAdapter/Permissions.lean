import HolonAdapter.Python.Exception
import Mathlib.Data.List.Basic

/-!
# Permissions — `fix_permissions` and `PermissionFixer.fix_permissions`

Both functions hand the output directory to the host user: they read `HOST_UID` and `HOST_GID`,
`chown` the directory, then walk it with `os.walk` and `chown` every directory and file each step
lists.  Two facts of the library decide what that does:

* `os.walk` lists a symbolic link under `dirs` or `files` by what it points to, and does not
  descend into it; `os.chown` follows it, so a link's **target** is re-owned (`Entry.target`);
* the whole walk sits in one `try`, so the first `chown` that raises ends it (`reowned`);
* `os.chown` converts each id to a 32-bit `uid_t` or `gid_t` before any call, where `-1` and
  `4294967295` both mean "leave it" and an id out of range raises `OverflowError` (`idT`).

The two functions differ only before the walk: `fix_permissions` parses the ids inside its `try`,
`PermissionFixer` outside it, where a malformed value raises.

* `fixPermissions_eq`, `permissionFixer_eq` — what each leaves, from any tree and any failures;
* `chownCalls_perm`, `tripleCalls_contiguous_chownCalls` — the calls reach every entry of the tree once,
  the root first, and each directory's entries in one run, its directories before its files;
* `fixedOwners_frame` — an inode that no entry of the tree resolves to keeps its owner.
-/

namespace HolonAdapter

/-- An entry of a directory tree, as `os.walk` sees it. -/
inductive Entry where
  | dir (ino : ℕ) (children : List (String × Entry))
  | file (ino : ℕ)
  /-- A symbolic link: the inode it resolves to (`none` when it dangles), and whether that is a
  directory. -/
  | link (target : Option ℕ) (toDir : Bool)

namespace Entry

/-- The inode `os.chown` acts on: a link is followed. -/
def target : Entry → Option ℕ
  | .dir ino _ => some ino
  | .file ino => some ino
  | .link t _ => t

/-- `os.walk` lists the entry under `dirs`: `is_dir()` follows links. -/
def isDir : Entry → Bool
  | .dir _ _ => true
  | .file _ => false
  | .link _ toDir => toDir

end Entry

/-- The calls of lines 33–36 for one triple `os.walk` yields, from the directory's entries: its
`dirs`, then its `files`. -/
def tripleCalls (cs : List (String × Entry)) : List (Option ℕ) :=
  (cs.filter (·.2.isDir)).map (·.2.target) ++ (cs.filter (! ·.2.isDir)).map (·.2.target)

mutual

/-- The calls for the walk of a directory: its own triple, then the walks of its subdirectories in
order — not of links to directories, which `os.walk` does not follow. -/
def Entry.walkCalls : Entry → List (Option ℕ)
  | .dir _ cs => tripleCalls cs ++ subdirCalls cs
  | .file _ => []
  | .link _ _ => []

/-- The walks of the subdirectories among a directory's entries. -/
def subdirCalls : List (String × Entry) → List (Option ℕ)
  | [] => []
  | p :: cs => namedWalkCalls p ++ subdirCalls cs

/-- The walk of one named entry. -/
def namedWalkCalls : String × Entry → List (Option ℕ)
  | (_, e) => e.walkCalls

end

/-- **The `chown` calls of lines 29–36**, in order: the directory, then the walk. -/
def chownCalls (directory : Entry) : List (Option ℕ) := directory.target :: directory.walkCalls

mutual

/-- Every entry of the tree, the tree itself first. -/
def Entry.entries : Entry → List Entry
  | .dir ino cs => .dir ino cs :: childEntries cs
  | .file ino => [.file ino]
  | .link t d => [.link t d]

/-- Every entry under a directory's entries. -/
def childEntries : List (String × Entry) → List Entry
  | [] => []
  | p :: cs => namedEntries p ++ childEntries cs

/-- Every entry of one named entry. -/
def namedEntries : String × Entry → List Entry
  | (_, e) => e.entries

end

/-- The inodes of the tree's own directories and files. -/
def Entry.inodes (e : Entry) : List ℕ :=
  e.entries.filterMap fun
    | .link _ _ => none
    | x => x.target

/-! ## The statements -/

/-- What the two functions read: the environment, `int()`, and the inodes on which `os.chown`
raises `PermissionError`. -/
structure FsEnv where
  environ : String → Option String
  /-- `int(s)`, `none` where it raises `ValueError`. -/
  pyInt : String → Option ℤ
  denied : ℕ → Bool

/-- The owner and group of every inode, as `uid_t` and `gid_t` values. -/
abbrev Owners := ℕ → ℕ × ℕ

/-- **`_Py_Uid_Converter`** (and `_Py_Gid_Converter`, with `kind` `"gid"`) on 64-bit Linux, where
`uid_t` is 32 bits wide and `long` 64: the id `os.chown` passes, `none` for `(uid_t)-1`, which
leaves the id as it is.  `-1` is that value, and so is `4294967295` (`2^32 - 1`), which fits in a
`long` and is not caught; any other negative value, and any value that a cast to `uid_t` would
truncate but a `long` holds (below `2^63`), is "less than minimum"; a value past a `long` is
"greater than maximum". -/
def idT (kind : String) (n : ℤ) : Except PyExc (Option ℕ) :=
  if n = -1 ∨ n = 4294967295 then .ok none
  else if 0 ≤ n ∧ n < 4294967296 then .ok (some n.toNat)
  else if n < 9223372036854775808 then .error ⟨.exception "OverflowError", kind ++ " is less than minimum"⟩
  else .error ⟨.exception "OverflowError", kind ++ " is greater than maximum"⟩

/-- The arguments of `os.chown(path, uid, gid)` as the call converts them, `uid` first. -/
def chownArgs (uid gid : ℤ) : Except PyExc (Option ℕ × Option ℕ) := do
  let u ← idT "uid" uid
  let g ← idT "gid" gid
  pure (u, g)

/-- The ids `chown(2)` gives an inode owned by `old`: `(uid_t)-1` keeps the id. -/
def chownIds (old : ℕ × ℕ) (u g : Option ℕ) : ℕ × ℕ := (u.getD old.1, g.getD old.2)

/-- `os.chown(path, uid, gid)` on an entry resolving to `target`: the ids are converted before the
call, which follows a link. -/
def chown (target : Option ℕ) (uid gid : ℤ) : PyM FsEnv Owners Unit := fun env o =>
  match chownArgs uid gid with
  | .error e => .raised e o
  | .ok (u, g) =>
    match target with
    | none => .raised ⟨.exception "FileNotFoundError", "[Errno 2] No such file or directory"⟩ o
    | some n =>
      if env.denied n then .raised ⟨.exception "PermissionError", "[Errno 1] Operation not permitted"⟩ o
      else .ok () (Function.update o n (chownIds (o n) u g))

/-- The calls, one after another. -/
def chownEach (uid gid : ℤ) : List (Option ℕ) → PyM FsEnv Owners Unit
  | [] => pure ()
  | t :: ts => do
    chown t uid gid
    chownEach uid gid ts

/-- `int(s)`. -/
def parseInt {σ : Type} (s : String) : PyM FsEnv σ ℤ := fun env o =>
  match env.pyInt s with
  | some n => .ok n o
  | none => .raised ⟨.exception "ValueError", "invalid literal for int() with base 10: '" ++ s ++ "'"⟩ o

/-- **`fix_permissions(directory)`** (adapter.py 12–38). -/
def fixPermissions (directory : Entry) : PyM FsEnv Owners Unit := do
  match (← PyM.read).environ "HOST_UID", (← PyM.read).environ "HOST_GID" with
  | some uidStr, some gidStr =>
    if uidStr = "" ∨ gidStr = "" then pure ()
    else
      PyM.tryExcept
        (do
          let uid ← parseInt uidStr
          let gid ← parseInt gidStr
          chownEach uid gid (chownCalls directory))
        fun _ => pure ()
  | _, _ => pure ()

/-- `int(s) if s else None` for the environment variable `name` (fs_helpers.py 89–95). -/
def envId (name : String) : PyM FsEnv Owners (Option ℤ) := do
  match (← PyM.read).environ name with
  | some s => if s = "" then pure none else some <$> parseInt s
  | none => pure none

/-- **`PermissionFixer.fix_permissions(directory, uid, gid)`** (fs_helpers.py 79–112). -/
def PermissionFixer.fixPermissions (directory : Entry) (uid gid : Option ℤ) :
    PyM FsEnv Owners Unit := do
  let uid ← match uid with
    | some n => pure (some n)
    | none => envId "HOST_UID"
  let gid ← match gid with
    | some n => pure (some n)
    | none => envId "HOST_GID"
  match uid, gid with
  | some u, some g => PyM.tryExcept (chownEach u g (chownCalls directory)) fun _ => pure ()
  | _, _ => pure ()

/-! ## What the walk does -/

/-- The inodes re-owned by the calls up to the first that raises. -/
def reowned (denied : ℕ → Bool) : List (Option ℕ) → List ℕ
  | [] => []
  | none :: _ => []
  | some n :: ts => if denied n then [] else n :: reowned denied ts

/-- The owners after `chown(2)` with `(u, g)` through the calls up to the first that raises. -/
def reownedOwners (denied : ℕ → Bool) (calls : List (Option ℕ)) (u g : Option ℕ) (o : Owners) :
    Owners := fun n => if n ∈ reowned denied calls then chownIds (o n) u g else o n

/-- The owners after `os.chown` with `(uid, gid)` through the calls up to the first that raises:
when an id does not convert, the first call raises and nothing changes. -/
def walkOwners (denied : ℕ → Bool) (calls : List (Option ℕ)) (uid gid : ℤ) (o : Owners) : Owners :=
  match chownArgs uid gid with
  | .ok (u, g) => reownedOwners denied calls u g o
  | .error _ => o

/-- `(uid, gid)` when both variables are set, non-empty and parse. -/
def hostIds (env : FsEnv) : Option (ℤ × ℤ) :=
  match env.environ "HOST_UID", env.environ "HOST_GID" with
  | some u, some g =>
    if u = "" ∨ g = "" then none else (env.pyInt u).bind fun a => (env.pyInt g).map (a, ·)
  | _, _ => none

/-- The owners either function leaves. -/
def fixedOwners (env : FsEnv) (directory : Entry) (o : Owners) : Owners :=
  match hostIds env with
  | some (uid, gid) => walkOwners env.denied (chownCalls directory) uid gid o
  | none => o

theorem chownIds_chownIds (old : ℕ × ℕ) (u g : Option ℕ) :
    chownIds (chownIds old u g) u g = chownIds old u g := by
  cases u <;> cases g <;> rfl

theorem idT_error_isException {kind : String} {n : ℤ} {e : PyExc} (h : idT kind n = .error e) :
    e.isException = true := by
  unfold idT at h
  split_ifs at h <;> cases h <;> rfl

section Walk

variable {env : FsEnv} {uid gid : ℤ} {u g : Option ℕ} {o : Owners}

/-- An id out of range raises `OverflowError`, an `Exception`, before any call. -/
theorem chownArgs_error_isException {e : PyExc} (h : chownArgs uid gid = .error e) :
    e.isException = true := by
  unfold chownArgs at h
  cases hu : idT "uid" uid with
  | error e' => rw [hu] at h; cases h; exact idT_error_isException hu
  | ok u =>
    cases hg : idT "gid" gid with
    | error e' => rw [hu, hg] at h; cases h; exact idT_error_isException hg
    | ok g => rw [hu, hg] at h; cases h

theorem chown_of_args_error {e : PyExc} (h : chownArgs uid gid = .error e) (t : Option ℕ) :
    chown t uid gid env o = .raised e o := by
  simp [chown, h]

theorem chown_of_allowed (ha : chownArgs uid gid = .ok (u, g)) {n : ℕ} (h : env.denied n = false) :
    chown (some n) uid gid env o = .ok () (Function.update o n (chownIds (o n) u g)) := by
  simp [chown, ha, h]

theorem chown_none (ha : chownArgs uid gid = .ok (u, g)) : chown none uid gid env o =
    .raised ⟨.exception "FileNotFoundError", "[Errno 2] No such file or directory"⟩ o := by
  simp [chown, ha]

theorem chown_of_denied (ha : chownArgs uid gid = .ok (u, g)) {n : ℕ} (h : env.denied n = true) :
    chown (some n) uid gid env o =
      .raised ⟨.exception "PermissionError", "[Errno 1] Operation not permitted"⟩ o := by
  simp [chown, ha, h]

end Walk

theorem reownedOwners_denied {denied : ℕ → Bool} {n : ℕ} (h : denied n = true)
    (ts : List (Option ℕ)) (u g : Option ℕ) (o : Owners) :
    reownedOwners denied (some n :: ts) u g o = o := by
  funext m
  simp [reownedOwners, reowned, h]

/-- A call that succeeds re-owns its inode, and the rest go on from there. -/
theorem reownedOwners_cons {denied : ℕ → Bool} {n : ℕ} (h : denied n = false)
    (ts : List (Option ℕ)) (u g : Option ℕ) (o : Owners) :
    reownedOwners denied ts u g (Function.update o n (chownIds (o n) u g)) =
      reownedOwners denied (some n :: ts) u g o := by
  funext m
  by_cases hm : m = n
  · subst hm
    simp [reownedOwners, reowned, h, chownIds_chownIds]
  · simp [reownedOwners, reowned, h, hm, Function.update_noteq]

/-- The walk under its `try`, once both ids convert. -/
theorem tryExcept_chownEach_of_ok {uid gid : ℤ} {u g : Option ℕ} (ha : chownArgs uid gid = .ok (u, g))
    (calls : List (Option ℕ)) (env : FsEnv) (o : Owners) :
    PyM.tryExcept (chownEach uid gid calls) (fun _ => pure ()) env o =
      .ok () (reownedOwners env.denied calls u g o) := by
  induction calls generalizing o with
  | nil => rfl
  | cons t ts ih =>
    rcases t with _ | n
    · rw [chownEach, PyM.tryExcept_of_isException (PyM.bind_of_raised (chown_none ha)) rfl]
      rfl
    · cases hd : env.denied n
      · rw [chownEach, PyM.tryExcept_bind_of_ok (chown_of_allowed ha hd), ih, reownedOwners_cons hd]
      · rw [chownEach, PyM.tryExcept_of_isException (PyM.bind_of_raised (chown_of_denied ha hd)) rfl,
          reownedOwners_denied hd]
        rfl

/-- **The walk under its `try`**: it always returns, with exactly the inodes of the calls before
the first that raises re-owned — none when an id does not convert. -/
theorem tryExcept_chownEach (uid gid : ℤ) (calls : List (Option ℕ)) (env : FsEnv) (o : Owners) :
    PyM.tryExcept (chownEach uid gid calls) (fun _ => pure ()) env o =
      .ok () (walkOwners env.denied calls uid gid o) := by
  unfold walkOwners
  cases ha : chownArgs uid gid with
  | error e =>
    cases calls with
    | nil => rfl
    | cons t ts =>
      rw [chownEach, PyM.tryExcept_of_isException (PyM.bind_of_raised (chown_of_args_error ha t))
        (chownArgs_error_isException ha)]
      rfl
  | ok ug => exact tryExcept_chownEach_of_ok ha calls env o

/-! ## The two functions -/

/-- The value `int(s) if s else None` takes when it does not raise. -/
def envIdValue (env : FsEnv) (name : String) : Option ℤ :=
  match env.environ name with
  | some s => if s = "" then none else env.pyInt s
  | none => none

theorem hostIds_eq (env : FsEnv) :
    hostIds env = (envIdValue env "HOST_UID").bind fun a => (envIdValue env "HOST_GID").map (a, ·) := by
  unfold hostIds envIdValue
  cases env.environ "HOST_UID" <;> cases env.environ "HOST_GID" <;> simp only [Option.none_bind] <;>
    split_ifs <;> simp_all

theorem parseInt_of_some {σ : Type} {env : FsEnv} {s : String} {n : ℤ} (h : env.pyInt s = some n)
    (o : σ) :
    parseInt s env o = .ok n o := by
  simp [parseInt, h]

theorem parseInt_of_none {σ : Type} {env : FsEnv} {s : String} (h : env.pyInt s = none) (o : σ) :
    parseInt s env o =
      .raised ⟨.exception "ValueError", "invalid literal for int() with base 10: '" ++ s ++ "'"⟩ o := by
  simp [parseInt, h]

/-- **`fix_permissions` always returns**, leaving `fixedOwners`. -/
theorem fixPermissions_eq (directory : Entry) (env : FsEnv) (o : Owners) :
    fixPermissions directory env o = .ok () (fixedOwners env directory o) := by
  simp only [fixPermissions, PyM.bind_of_ok (PyM.read_apply env o), fixedOwners, hostIds]
  cases hu : env.environ "HOST_UID" with
  | none => rfl
  | some u =>
    cases hg : env.environ "HOST_GID" with
    | none => rfl
    | some g =>
      dsimp only
      split_ifs with he
      · rfl
      · cases pu : env.pyInt u with
        | none => rw [PyM.tryExcept_of_isException (PyM.bind_of_raised (parseInt_of_none pu o)) rfl]; rfl
        | some a =>
          rw [PyM.tryExcept_bind_of_ok (parseInt_of_some pu o)]
          cases pg : env.pyInt g with
          | none =>
            rw [PyM.tryExcept_of_isException (PyM.bind_of_raised (parseInt_of_none pg o)) rfl]; rfl
          | some b =>
            rw [PyM.tryExcept_bind_of_ok (parseInt_of_some pg o), tryExcept_chownEach]
            rfl

/-- `int(s) if s else None` returns when the value, if set and non-empty, parses. -/
theorem envId_eq {env : FsEnv} {name : String}
    (h : ∀ s, env.environ name = some s → s ≠ "" → (env.pyInt s).isSome) (o : Owners) :
    envId name env o = .ok (envIdValue env name) o := by
  simp only [envId, PyM.bind_of_ok (PyM.read_apply env o), envIdValue]
  cases hn : env.environ name with
  | none => rfl
  | some s =>
    dsimp only
    split_ifs with hs
    · rfl
    · obtain ⟨n, hn'⟩ := Option.isSome_iff_exists.mp (h s hn hs)
      rw [PyM.map_of_ok (parseInt_of_some hn' o), hn']

/-- **`PermissionFixer.fix_permissions` with `uid` and `gid` left `None`** leaves `fixedOwners`,
when the variables it parses outside its `try` parse. -/
theorem permissionFixer_eq (directory : Entry) (env : FsEnv) (o : Owners)
    (hU : ∀ s, env.environ "HOST_UID" = some s → s ≠ "" → (env.pyInt s).isSome)
    (hG : ∀ s, env.environ "HOST_GID" = some s → s ≠ "" → (env.pyInt s).isSome) :
    PermissionFixer.fixPermissions directory none none env o = .ok () (fixedOwners env directory o) := by
  simp only [PermissionFixer.fixPermissions, PyM.bind_of_ok (envId_eq hU o),
    PyM.bind_of_ok (envId_eq hG o), fixedOwners, hostIds_eq]
  cases envIdValue env "HOST_UID" <;> cases envIdValue env "HOST_GID" <;> try rfl
  exact tryExcept_chownEach _ _ _ env o

/-- **Where the two differ**: a set, non-empty `HOST_UID` that does not parse makes
`PermissionFixer.fix_permissions` raise `ValueError`, outside its `try`. -/
theorem permissionFixer_of_malformed {env : FsEnv} {s : String} (directory : Entry) (o : Owners)
    (h : env.environ "HOST_UID" = some s) (hs : s ≠ "") (hp : env.pyInt s = none) :
    PermissionFixer.fixPermissions directory none none env o =
      .raised ⟨.exception "ValueError", "invalid literal for int() with base 10: '" ++ s ++ "'"⟩ o := by
  have hid : envId "HOST_UID" env o = .raised ⟨.exception "ValueError",
      "invalid literal for int() with base 10: '" ++ s ++ "'"⟩ o := by
    simp only [envId, PyM.bind_of_ok (PyM.read_apply env o), h, hs, if_false]
    exact PyM.map_of_raised (parseInt_of_none hp o)
  simp only [PermissionFixer.fixPermissions]
  rw [PyM.bind_of_raised hid]

/-! ## What changes owner -/

theorem Entry.mem_entries_self (e : Entry) : e ∈ e.entries := by
  cases e <;> simp [Entry.entries]

theorem mem_childEntries {cs : List (String × Entry)} {p : String × Entry} (hp : p ∈ cs) :
    p.2 ∈ childEntries cs := by
  induction cs with
  | nil => cases hp
  | cons q cs ih =>
    rw [childEntries, List.mem_append]
    rcases List.mem_cons.mp hp with rfl | hp
    · exact .inl (by rcases p with ⟨_, e⟩; exact e.mem_entries_self)
    · exact .inr (ih hp)

theorem mem_tripleCalls {cs : List (String × Entry)} {t : Option ℕ} (ht : t ∈ tripleCalls cs) :
    ∃ x ∈ childEntries cs, x.target = t := by
  simp only [tripleCalls, List.mem_append, List.mem_map, List.mem_filter] at ht
  rcases ht with ⟨p, ⟨hp, -⟩, rfl⟩ | ⟨p, ⟨hp, -⟩, rfl⟩ <;> exact ⟨p.2, mem_childEntries hp, rfl⟩

mutual

/-- Every call of a walk is on an entry of the walked tree. -/
theorem Entry.mem_walkCalls : ∀ (e : Entry) (t : Option ℕ), t ∈ e.walkCalls →
    ∃ x ∈ e.entries, x.target = t
  | .dir ino cs, t, ht => by
    rw [Entry.walkCalls, List.mem_append] at ht
    obtain ⟨x, hx, rfl⟩ := ht.elim mem_tripleCalls (mem_subdirCalls cs t)
    exact ⟨x, List.mem_cons_of_mem _ hx, rfl⟩
  | .file _, _, ht => by cases ht
  | .link _ _, _, ht => by cases ht

theorem mem_subdirCalls : ∀ (cs : List (String × Entry)) (t : Option ℕ), t ∈ subdirCalls cs →
    ∃ x ∈ childEntries cs, x.target = t
  | [], _, ht => by cases ht
  | p :: cs, t, ht => by
    rw [subdirCalls, List.mem_append] at ht
    rcases ht with ht | ht
    · obtain ⟨x, hx, rfl⟩ := mem_namedWalkCalls p t ht
      exact ⟨x, List.mem_append_left _ hx, rfl⟩
    · obtain ⟨x, hx, rfl⟩ := mem_subdirCalls cs t ht
      exact ⟨x, List.mem_append_right _ hx, rfl⟩

theorem mem_namedWalkCalls : ∀ (p : String × Entry) (t : Option ℕ), t ∈ namedWalkCalls p →
    ∃ x ∈ namedEntries p, x.target = t
  | (_, e), t, ht => Entry.mem_walkCalls e t ht

end

theorem mem_chownCalls {directory : Entry} {t : Option ℕ} (ht : t ∈ chownCalls directory) :
    ∃ x ∈ directory.entries, x.target = t := by
  rcases List.mem_cons.mp ht with rfl | ht
  · exact ⟨directory, directory.mem_entries_self, rfl⟩
  · exact directory.mem_walkCalls t ht

/-! ## The calls cover the tree

`mem_chownCalls` says every call is on an entry of the tree; conversely, every entry is called,
once: the calls are the entries' targets in another order (`chownCalls_perm`), the root's first.
Each step of `os.walk` makes its calls in one run, its directories' before its files'
(`tripleCalls_contiguous_chownCalls`). -/

theorem tripleCalls_perm (cs : List (String × Entry)) :
    (tripleCalls cs).Perm (cs.map (·.2.target)) := by
  rw [tripleCalls, ← List.map_append]
  exact (List.filter_append_perm _ cs).map _

mutual

/-- **Every entry is called once**: the calls of a tree are its entries' targets, in some order. -/
theorem Entry.chownCalls_perm : ∀ e : Entry, (chownCalls e).Perm (e.entries.map Entry.target)
  | .dir ino cs => by
    rw [chownCalls, Entry.walkCalls, Entry.entries, List.map_cons]
    exact (((tripleCalls_perm cs).append_right _).trans (childCalls_perm cs)).cons _
  | .file _ => .refl _
  | .link _ _ => .refl _

theorem childCalls_perm : ∀ cs : List (String × Entry),
    (cs.map (·.2.target) ++ subdirCalls cs).Perm ((childEntries cs).map Entry.target)
  | [] => .refl _
  | p :: cs => by
    rw [List.map_cons, subdirCalls, childEntries, List.map_append, List.cons_append]
    -- the child's own call moves next to its walk, then both sides split at the child
    exact ((List.perm_append_comm_assoc _ _ _).cons _).trans
      ((namedCalls_perm p).append (childCalls_perm cs))

theorem namedCalls_perm : ∀ p : String × Entry,
    (p.2.target :: namedWalkCalls p).Perm ((namedEntries p).map Entry.target)
  | (_, e) => Entry.chownCalls_perm e

end

mutual

/-- The calls of a walk hold each of its directories' triples in one run. -/
theorem Entry.tripleCalls_contiguous : ∀ (e : Entry) (ino : ℕ) (cs : List (String × Entry)),
    Entry.dir ino cs ∈ e.entries → tripleCalls cs <:+: e.walkCalls
  | .dir _ cs', ino, cs, h => by
    rw [Entry.entries, List.mem_cons] at h
    rw [Entry.walkCalls]
    rcases h with h | h
    · cases h
      exact (List.prefix_append _ _).isInfix
    · exact (childTriple_contiguous cs' ino cs h).trans (List.suffix_append _ _).isInfix
  | .file _, _, _, h => by simp [Entry.entries] at h
  | .link _ _, _, _, h => by simp [Entry.entries] at h

theorem childTriple_contiguous : ∀ (cs' : List (String × Entry)) (ino : ℕ) (cs : List (String × Entry)),
    Entry.dir ino cs ∈ childEntries cs' → tripleCalls cs <:+: subdirCalls cs'
  | [], _, _, h => by cases h
  | p :: cs', ino, cs, h => by
    rw [childEntries, List.mem_append] at h
    rw [subdirCalls]
    rcases h with h | h
    · exact (namedTriple_contiguous p ino cs h).trans (List.prefix_append _ _).isInfix
    · exact (childTriple_contiguous cs' ino cs h).trans (List.suffix_append _ _).isInfix

theorem namedTriple_contiguous : ∀ (p : String × Entry) (ino : ℕ) (cs : List (String × Entry)),
    Entry.dir ino cs ∈ namedEntries p → tripleCalls cs <:+: namedWalkCalls p
  | (_, e), ino, cs, h => Entry.tripleCalls_contiguous e ino cs h

end

/-- **Each step of the walk makes its calls in one run**: for every directory of the tree, the
calls on its directories, then on its files. -/
theorem tripleCalls_contiguous_chownCalls {directory : Entry} {ino : ℕ} {cs : List (String × Entry)}
    (h : Entry.dir ino cs ∈ directory.entries) : tripleCalls cs <:+: chownCalls directory :=
  List.infix_cons (directory.tripleCalls_contiguous ino cs h)

theorem some_mem_of_mem_reowned {denied : ℕ → Bool} {calls : List (Option ℕ)} {n : ℕ}
    (h : n ∈ reowned denied calls) : some n ∈ calls := by
  induction calls with
  | nil => cases h
  | cons t ts ih =>
    rcases t with _ | m
    · cases h
    · simp only [reowned] at h
      split_ifs at h
      · cases h
      · rcases List.mem_cons.mp h with rfl | h
        · exact List.mem_cons_self _ _
        · exact List.mem_cons_of_mem _ (ih h)

/-- An inode no call names keeps its owner. -/
theorem walkOwners_of_not_mem {denied : ℕ → Bool} {calls : List (Option ℕ)} {n : ℕ}
    (hn : some n ∉ calls) (uid gid : ℤ) (o : Owners) : walkOwners denied calls uid gid o n = o n := by
  unfold walkOwners
  cases chownArgs uid gid with
  | ok ug => exact if_neg fun h => hn (some_mem_of_mem_reowned h)
  | error _ => rfl

theorem walkOwners_walkOwners (denied : ℕ → Bool) (calls : List (Option ℕ)) (uid gid : ℤ)
    (o : Owners) :
    walkOwners denied calls uid gid (walkOwners denied calls uid gid o) =
      walkOwners denied calls uid gid o := by
  unfold walkOwners
  cases chownArgs uid gid with
  | ok ug =>
    funext n
    simp only [reownedOwners]
    split_ifs <;> simp [chownIds_chownIds]
  | error _ => rfl

/-- **The frame**: an inode that no entry of the tree resolves to — through a link or not — keeps
its owner. -/
theorem fixedOwners_frame (env : FsEnv) (directory : Entry) (o : Owners) (n : ℕ)
    (hn : ∀ x ∈ directory.entries, x.target ≠ some n) : fixedOwners env directory o n = o n := by
  unfold fixedOwners
  cases hostIds env with
  | some ids =>
    refine walkOwners_of_not_mem (fun h => ?_) _ _ o
    obtain ⟨x, hx, hxt⟩ := mem_chownCalls h
    exact hn x hx hxt
  | none => rfl

/-- The frame at inode 5, outside a tree of one file, with both ids set. -/
theorem fixedOwners_frame_outside :
    (∀ x ∈ (Entry.dir 1 [("a", .file 2)]).entries, x.target ≠ some 5) ∧
      fixedOwners ⟨fun _ => some "1000", fun _ => some 1000, fun _ => false⟩
        (.dir 1 [("a", .file 2)]) (fun _ => (0, 0)) 5 = (0, 0) :=
  ⟨by decide, fixedOwners_frame _ _ _ 5 (by decide)⟩

/-- **Fixing twice is fixing once**: `fix_permissions` run again on the owners it left changes
nothing. -/
theorem fixPermissions_idempotent (directory : Entry) (env : FsEnv) (o : Owners) :
    fixPermissions directory env (fixedOwners env directory o) =
      .ok () (fixedOwners env directory o) := by
  rw [fixPermissions_eq]
  congr 1
  unfold fixedOwners
  cases hostIds env with
  | none => rfl
  | some ids => exact walkOwners_walkOwners _ _ _ _ o

/-! ## Both functions -/

/-- **Both functions re-own the walk up to its first failure, and nothing after it.**
`fix_permissions` always returns, and so does `PermissionFixer.fix_permissions` (with `uid` and
`gid` left `None`) when `HOST_UID` and `HOST_GID` parse wherever they are set and non-empty.  Either
leaves every owner as it was unless both ids are set, non-empty and parse; it then calls `chown` on
every entry of the tree once — the root first, and for each directory its directories, then its
files, in one run — and re-owns the entries it reaches up to the first call that raises: none when
an id is out of `uid_t`'s range, and an id of `-1` or `4294967295` left as it was. -/
theorem fixPermissions_reowns_until_failure (directory : Entry) (env : FsEnv) (o : Owners) :
    fixPermissions directory env o = .ok () (fixedOwners env directory o) ∧
    ((∀ s, env.environ "HOST_UID" = some s → s ≠ "" → (env.pyInt s).isSome) →
      (∀ s, env.environ "HOST_GID" = some s → s ≠ "" → (env.pyInt s).isSome) →
      PermissionFixer.fixPermissions directory none none env o =
        .ok () (fixedOwners env directory o)) ∧
    (chownCalls directory).Perm (directory.entries.map Entry.target) ∧
    ∀ ino cs, Entry.dir ino cs ∈ directory.entries → tripleCalls cs <:+: chownCalls directory :=
  ⟨fixPermissions_eq directory env o, permissionFixer_eq directory env o, directory.chownCalls_perm,
    fun _ _ => tripleCalls_contiguous_chownCalls⟩

/-- The environment of the worked cases below: `HOST_UID` and `HOST_GID` both `1000`, with `chown`
refused on the inodes `denied` names. -/
def sampleFsEnv (denied : ℕ → Bool) : FsEnv :=
  ⟨fun k => if k = "HOST_UID" ∨ k = "HOST_GID" then some "1000" else none,
    fun s => if s = "1000" then some 1000 else none, denied⟩

theorem sampleFsEnv_parses (denied : ℕ → Bool) (k s : String)
    (h : (sampleFsEnv denied).environ k = some s) : ((sampleFsEnv denied).pyInt s).isSome := by
  simp only [sampleFsEnv] at h ⊢
  split_ifs at h
  cases h
  rfl

/-- Both functions at a tree of two files, neither refused. -/
theorem fixPermissions_reowns_two_files :
    PermissionFixer.fixPermissions (.dir 1 [("a", .file 2), ("b", .file 3)]) none none
        (sampleFsEnv fun _ => false) (fun _ => (0, 0)) =
      .ok () (fixedOwners (sampleFsEnv fun _ => false) (.dir 1 [("a", .file 2), ("b", .file 3)])
        fun _ => (0, 0)) :=
  (fixPermissions_reowns_until_failure _ _ _).2.1 (fun s h _ => sampleFsEnv_parses _ _ s h)
    (fun s h _ => sampleFsEnv_parses _ _ s h)

/-- **A refused entry stops the walk**: with `chown` refused on the first of two files, the second
keeps its owner. -/
theorem fixPermissions_stops_at_denied :
    ∃ o', fixPermissions (.dir 1 [("a", .file 2), ("b", .file 3)]) (sampleFsEnv (· == 2))
        (fun _ => (0, 0)) = .ok () o' ∧ o' 3 = (0, 0) :=
  ⟨_, fixPermissions_eq _ _ _, by decide⟩

/-- **A link in the tree re-owns its target**: an output directory holding a link to inode 99,
which is no entry of the tree, hands 99 to the host user — in both functions. -/
theorem fixPermissions_follows_link :
    99 ∉ (Entry.dir 1 [("out", .link (some 99) false)]).inodes ∧
      (∃ o', fixPermissions (.dir 1 [("out", .link (some 99) false)]) (sampleFsEnv fun _ => false)
        (fun _ => (0, 0)) = .ok () o' ∧ o' 99 = (1000, 1000)) ∧
      ∃ o', PermissionFixer.fixPermissions (.dir 1 [("out", .link (some 99) false)]) none none
        (sampleFsEnv fun _ => false) (fun _ => (0, 0)) = .ok () o' ∧ o' 99 = (1000, 1000) :=
  ⟨by decide, ⟨_, fixPermissions_eq _ _ _, by decide⟩,
    ⟨_, permissionFixer_eq _ _ _ (fun s h _ => sampleFsEnv_parses _ _ s h)
      (fun s h _ => sampleFsEnv_parses _ _ s h), by decide⟩⟩

end HolonAdapter
