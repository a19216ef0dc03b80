import Mathlib.Data.List.Dedup
import HolonAdapter.Python.Json
import HolonAdapter.Python.Text

/-!
# Git/Tree — snapshots of files, and the patch between two of them

A working tree, an index and a commit's tree are all the same thing to `git diff`: a file (its
mode and bytes) at each of finitely many paths.  Three operations on them carry the adapter's
patch:

* `stageAll` — the index `git add -A` builds: every working-tree file that is tracked or not
  ignored, and nothing the working tree lacks;
* `diffTrees` — `git diff --cached`: one `Change` per path whose file differs between two trees;
* `Applies` — `git apply`: each change finds its old file and leaves its new one, and every other
  path keeps its file.

`applies_diffTrees_iff` — the patch from `a` to `b`, applied to `t`, yields `b` **exactly** when
`t` is `a`.
-/

namespace HolonAdapter

/-- A file as git stores it: its mode, and its bytes. -/
structure Blob where
  mode : ℕ
  data : Bytes
  deriving DecidableEq, Repr

/-- Files by path. -/
structure Tree where
  entries : List (String × Blob)

namespace Tree

/-- The file at a path. -/
def get (t : Tree) (p : String) : Option Blob := dictGet t.entries p

/-- Write a file. -/
def set (t : Tree) (p : String) (b : Blob) : Tree := ⟨dictSet t.entries p b⟩

/-- Delete a file. -/
def remove (t : Tree) (p : String) : Tree := ⟨t.entries.filter (·.1 != p)⟩

/-- The paths that may hold a file. -/
def paths (t : Tree) : List String := t.entries.map (·.1)

/-- No files. -/
def empty : Tree := ⟨[]⟩

/-- **The same files** at every path. -/
def Same (t u : Tree) : Prop := ∀ p, t.get p = u.get p

@[simp] theorem get_empty (p : String) : empty.get p = none := rfl

@[simp] theorem get_set (t : Tree) (p q : String) (b : Blob) :
    (t.set p b).get q = if q = p then some b else t.get q :=
  dictGet_dictSet t.entries p q b

/-- Filtering entries by their path keeps the file at a path the filter keeps. -/
theorem get_filter (l : List (String × Blob)) (P : String → Bool) (q : String) :
    dictGet (l.filter fun e => P e.1) q = if P q then dictGet l q else none := by
  induction l with
  | nil => split_ifs <;> rfl
  | cons e l ih =>
    obtain ⟨j, w⟩ := e
    by_cases hj : P j
    · simp only [List.filter_cons, hj, if_true, dictGet_cons, ih]
      by_cases hq : q = j
      · subst hq; simp [hj]
      · simp [hq]
    · simp only [List.filter_cons, hj, Bool.false_eq_true, if_false, ih, dictGet_cons]
      by_cases hq : q = j
      · subst hq; simp [hj]
      · simp [hq]

@[simp] theorem get_remove (t : Tree) (p q : String) :
    (t.remove p).get q = if q = p then none else t.get q := by
  rw [get, remove, get_filter t.entries (· != p)]
  by_cases h : q = p <;> simp [h, get]

theorem mem_paths_of_get {t : Tree} {p : String} (h : t.get p ≠ none) : p ∈ t.paths := by
  obtain ⟨e, he, hp⟩ := List.lookup_isSome_iff.mp (Option.ne_none_iff_isSome.mp h)
  exact List.mem_map.mpr ⟨e, he, (beq_iff_eq.mp hp).symm⟩

/-- `Same`, decided over the paths of both trees. -/
def same (t u : Tree) : Bool := (t.paths ++ u.paths).all fun p => t.get p == u.get p

theorem same_iff (t u : Tree) : t.same u = true ↔ t.Same u := by
  simp only [same, List.all_eq_true, List.mem_append, beq_iff_eq]
  refine ⟨fun h p => ?_, fun h p _ => h p⟩
  by_cases ht : t.get p = none
  · by_cases hu : u.get p = none
    · rw [ht, hu]
    · exact h p (.inr (mem_paths_of_get hu))
  · exact h p (.inl (mem_paths_of_get ht))

end Tree

/-! ## Staging -/

/-- **The index `git add -A` leaves**, from index `i` and working tree `w`: the working-tree files
that are tracked or that the ignore rules (which read the working tree's `.gitignore` files) do
not match. -/
def stageAll (ignored : Tree → String → Bool) (i w : Tree) : Tree :=
  ⟨w.entries.filter fun e => (i.get e.1).isSome || !ignored w e.1⟩

theorem get_stageAll (ignored : Tree → String → Bool) (i w : Tree) (p : String) :
    (stageAll ignored i w).get p =
      if (i.get p).isSome || !ignored w p then w.get p else none :=
  Tree.get_filter w.entries (fun q => (i.get q).isSome || !ignored w q) p

/-! ## The cached diff, and applying it -/

/-- A change to one path: the file before, and the file after. -/
structure Change where
  path : String
  before : Option Blob
  after : Option Blob
  deriving DecidableEq, Repr

/-- **`git diff --cached`** between trees `a` and `b`: a change for every path whose file differs,
once. -/
def diffTrees (a b : Tree) : List Change :=
  (a.paths ++ b.paths).dedup.filterMap fun p =>
    if a.get p = b.get p then none else some ⟨p, a.get p, b.get p⟩

/-- The diff holds exactly the paths whose files differ, with the files on each side. -/
theorem mem_diffTrees (a b : Tree) (c : Change) :
    c ∈ diffTrees a b ↔ a.get c.path ≠ b.get c.path ∧ c = ⟨c.path, a.get c.path, b.get c.path⟩ := by
  simp only [diffTrees, List.mem_filterMap, List.mem_dedup, List.mem_append]
  constructor
  · rintro ⟨p, -, hp⟩
    split_ifs at hp with h
    cases hp
    exact ⟨h, rfl⟩
  · rintro ⟨h, hc⟩
    refine ⟨c.path, ?_, by rw [if_neg h, hc]⟩
    by_cases ha : a.get c.path = none
    · exact .inr (Tree.mem_paths_of_get fun hb => h (ha.trans hb.symm))
    · exact .inl (Tree.mem_paths_of_get ha)

/-- The diff is empty exactly when the two trees hold the same files. -/
theorem diffTrees_eq_nil_iff (a b : Tree) : diffTrees a b = [] ↔ a.Same b := by
  rw [List.eq_nil_iff_forall_not_mem]
  constructor
  · intro h p
    by_contra hp
    exact h ⟨p, a.get p, b.get p⟩ ((mem_diffTrees _ _ _).mpr ⟨hp, rfl⟩)
  · intro h c hc
    exact ((mem_diffTrees a b c).mp hc).1 (h c.path)

/-- **`git apply`**: every change finds its `before` file at its path and leaves its `after`
file there, and every path no change names keeps its file. -/
def Applies (patch : List Change) (t t' : Tree) : Prop :=
  (∀ c ∈ patch, t.get c.path = c.before ∧ t'.get c.path = c.after) ∧
    ∀ p, (∀ c ∈ patch, c.path ≠ p) → t'.get p = t.get p

/-- **The patch from `a` to `b` takes `t` to `b` exactly when `t` is `a`.** -/
theorem applies_diffTrees_iff (a b t : Tree) : Applies (diffTrees a b) t b ↔ t.Same a := by
  constructor
  · rintro ⟨hch, hkeep⟩ p
    by_cases hp : a.get p = b.get p
    · refine (hkeep p fun c hc hcp => ?_).symm.trans hp.symm
      exact ((mem_diffTrees a b c).mp hc).1 (hcp ▸ hp)
    · exact (hch ⟨p, a.get p, b.get p⟩ ((mem_diffTrees _ _ _).mpr ⟨hp, rfl⟩)).1
  · intro hs
    refine ⟨fun c hc => ?_, fun p hp => ?_⟩
    · obtain ⟨-, hc⟩ := (mem_diffTrees a b c).mp hc
      rw [hc]
      exact ⟨hs c.path, rfl⟩
    · rw [hs p]
      by_contra hne
      exact hp ⟨p, a.get p, b.get p⟩ ((mem_diffTrees _ _ _).mpr ⟨Ne.symm hne, rfl⟩) rfl

end HolonAdapter
