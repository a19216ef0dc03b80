import HolonAdapter.Git.Tree

/-!
# Git/Repo — the workspace repository: its baseline, the agent's session, and the patch

`/holon/workspace` is a working tree and, when it has one, a `.git` holding the commit `HEAD`
names and the index.  The adapter touches it twice.  Before the session (lines 103–113) it gives a
workspace without `.git` a **baseline**: `git init`, a few ignore rules appended to `.gitignore`,
`git add -A` and a commit, each under `check=True`.  After the session (lines 198–206) it stages
everything with `git add -A` and takes `git diff --cached`: the change from `HEAD`'s tree to the
index.  In between, the agent edits files and runs git as it likes (`Action`).

* `stagedPatch_applies_iff` — the patch takes a tree to the session-end workspace exactly when
  that tree is `HEAD`'s at session end; after a fresh baseline and a session that never moves
  `HEAD`, that is the session-start workspace.
* `stagedPatch_misses_commit` — a session that commits its work leaves an empty patch.

The ignore rules are a parameter `ignored w p`: whether path `p` is ignored by the `.gitignore`
files of working tree `w`.  The model is of a repository in which `git add` stores each file's
bytes and mode as they are, and which it cannot fail on while `.git` is there: no nested repository or submodule in the workspace
(`git add -A` refuses one with no commit), no `.gitattributes` line-ending conversion or clean
filter, no index entry flagged assume-unchanged or skip-worktree, `core.fileMode` at its default,
and no stale `index.lock`.  The stash list is not kept.
-/

namespace HolonAdapter

/-- The part of `.git` the patch depends on: the tree of the commit `HEAD` names (`none` on an
unborn branch), and the index. -/
structure GitDir where
  head : Option Tree
  index : Tree

/-- `HEAD`'s tree as `git diff --cached` compares against it: the empty tree on an unborn branch. -/
def GitDir.headTree (g : GitDir) : Tree := g.head.getD .empty

/-- The workspace: its files, and its `.git` when it has one. -/
structure Repo where
  work : Tree
  git : Option GitDir

section Commands

variable (ignored : Tree → String → Bool)

/-! ## Git commands

Each returns its exit status.  Outside a repository every command exits with 128 (`fatal: not a
git repository`) and changes nothing. -/

/-- `git init`: an unborn branch and an empty index; an existing repository is left as it is. -/
def gitInit (r : Repo) : ℕ × Repo :=
  match r.git with
  | some _ => (0, r)
  | none => (0, { r with git := some ⟨none, .empty⟩ })

/-- `git add -A`: the index becomes `stageAll` of the working tree. -/
def gitAddAll (r : Repo) : ℕ × Repo :=
  match r.git with
  | none => (128, r)
  | some g => (0, { r with git := some { g with index := stageAll ignored g.index r.work } })

/-- `git add <path>`: the index entry of one path follows `stageAll`.  An ignored untracked file
is refused with status 1; a path matching nothing, with 128. -/
def gitAdd (p : String) (r : Repo) : ℕ × Repo :=
  match r.git with
  | none => (128, r)
  | some g =>
    match (stageAll ignored g.index r.work).get p with
    | some b => (0, { r with git := some { g with index := g.index.set p b } })
    | none =>
      if (g.index.get p).isSome then (0, { r with git := some { g with index := g.index.remove p } })
      else if (r.work.get p).isSome then (1, r) else (128, r)

/-- `git commit -m …`: a commit of the index, or status 1 when the index holds what `HEAD` holds
("nothing to commit"). -/
def gitCommit (r : Repo) : ℕ × Repo :=
  match r.git with
  | none => (128, r)
  | some g =>
    if g.index.same g.headTree then (1, r)
    else (0, { r with git := some { g with head := some g.index } })

/-- `git reset <commit>` (the default `--mixed`), to a commit whose tree is `t`: `HEAD` and the
index move there, the working tree stays. -/
def gitReset (t : Tree) (r : Repo) : ℕ × Repo :=
  match r.git with
  | none => (128, r)
  | some _ => (0, { r with git := some ⟨some t, t⟩ })

/-- `git checkout -- <path>`: the working-tree file is restored from the index. -/
def gitCheckout (p : String) (r : Repo) : ℕ × Repo :=
  match r.git with
  | none => (128, r)
  | some g =>
    match g.index.get p with
    | some b => (0, { r with work := r.work.set p b })
    | none => (1, r)

/-- `git stash`: the index and every tracked file go back to `HEAD`; untracked files stay.  On an
unborn branch there is nothing to stash against (status 1). -/
def gitStash (r : Repo) : ℕ × Repo :=
  match r.git with
  | none => (128, r)
  | some ⟨none, _⟩ => (1, r)
  | some ⟨some h, i⟩ =>
    (0, ⟨⟨r.work.entries.filter (fun e => (i.get e.1).isNone && (h.get e.1).isNone) ++ h.entries⟩,
      some ⟨some h, h⟩⟩)

/-- `git diff --cached --patch --binary --full-index`: the change from `HEAD`'s tree to the index.
The command's text rendering of the change list is the caller's business. -/
def gitDiffCached (r : Repo) : ℕ × List Change :=
  match r.git with
  | none => (128, [])
  | some g => (0, diffTrees g.headTree g.index)

/-- The files git tracks or does not ignore: what `git add -A` would stage. -/
def view (r : Repo) : Tree := stageAll ignored ((r.git.map GitDir.index).getD .empty) r.work

/-- The patch of lines 198–206: `git add -A`, then `git diff --cached`. -/
def stagedPatch (r : Repo) : List Change := (gitDiffCached (gitAddAll ignored r).2).2

theorem stagedPatch_of_git {r : Repo} {g : GitDir} (hg : r.git = some g) :
    stagedPatch ignored r = diffTrees g.headTree (view ignored r) := by
  simp [stagedPatch, gitAddAll, gitDiffCached, view, hg, GitDir.headTree]

/-- **An ignored untracked file never enters the patch**: every path the patch changes is in
`HEAD`'s tree, in the index, or not ignored. -/
theorem stagedPatch_excludes_ignored (r : Repo) :
    ∀ c ∈ stagedPatch ignored r, ∃ g, r.git = some g ∧ ((g.headTree.get c.path).isSome ∨
      (g.index.get c.path).isSome ∨ ignored r.work c.path = false) := by
  intro c hc
  cases hg : r.git with
  | none => simp [stagedPatch, gitAddAll, gitDiffCached, hg] at hc
  | some g =>
    refine ⟨g, rfl, or_iff_not_imp_left.mpr fun hh => ?_⟩
    rw [stagedPatch_of_git ignored hg, mem_diffTrees] at hc
    have hv : ((view ignored r).get c.path).isSome := by
      rw [← Option.ne_none_iff_isSome]
      rw [Option.not_isSome_iff_eq_none] at hh
      exact fun hn => hc.1 (hh.trans hn.symm)
    simp only [view, hg, Option.map_some', Option.getD_some, get_stageAll] at hv
    split_ifs at hv with hcond
    · simpa using hcond
    · cases hv

/-! ## The baseline (lines 103–113) -/

/-- `str(CalledProcessError)` for a command that exited with `code`. -/
def calledProcessError (args : List String) (code : ℕ) : PyExc :=
  ⟨.exception "CalledProcessError", "Command '[" ++ ", ".intercalate (args.map fun a => "'" ++ a ++ "'")
    ++ "]' returned non-zero exit status " ++ toString code ++ "."⟩

/-- `subprocess.run(args, check=True)` of a command on the workspace. -/
def runChecked {ρ : Type} (args : List String) (cmd : Repo → ℕ × Repo) : PyM ρ Repo Unit :=
  fun _ r => match cmd r with
    | (0, r') => .ok () r'
    | (code, r') => .raised (calledProcessError args code) r'

/-- The lines appended to `.gitignore` (line 109). -/
def baselineIgnores : String := "\n__pycache__/\n*.pyc\n*.pyo\n.DS_Store\n"

/-- `open(".gitignore", "a").write(…)`: the encoded text appended, to a new regular file if there
was none. -/
def appendGitignore (w : Tree) : Tree :=
  let old := w.get ".gitignore"
  w.set ".gitignore"
    ⟨(old.map (·.mode)).getD 0o100644, (old.map (·.data)).getD [] ++ encodeUtf8 baselineIgnores.toList⟩

/-- **Lines 103–113**: a workspace without `.git` gets a fresh repository whose one commit holds
every file it does not ignore. -/
def baseline {ρ : Type} : PyM ρ Repo Unit := do
  if (← PyM.get).git.isSome then pure () else
  runChecked ["git", "init"] gitInit
  PyM.modify fun r => { r with work := appendGitignore r.work }
  runChecked ["git", "add", "-A"] (gitAddAll ignored)
  runChecked ["git", "commit", "-m", "holon-baseline"] gitCommit

/-- The tree the baseline commits, from the workspace `w` it finds. -/
def baselineTree (w : Tree) : Tree := stageAll ignored .empty (appendGitignore w)

theorem baseline_of_git {ρ : Type} (e : ρ) {r : Repo} (hg : r.git.isSome) :
    baseline ignored e r = .ok () r := by
  simp [baseline, PyM.bind_apply, hg]

/-- **The fresh baseline**: a commit of `baselineTree`, which is also the index; or, when that tree
is empty, a `CalledProcessError` from the commit. -/
theorem baseline_fresh {ρ : Type} (e : ρ) (w : Tree) :
    baseline ignored e ⟨w, none⟩ =
      if (baselineTree ignored w).same .empty then
        .raised (calledProcessError ["git", "commit", "-m", "holon-baseline"] 1)
          ⟨appendGitignore w, some ⟨none, baselineTree ignored w⟩⟩
      else .ok () ⟨appendGitignore w, some ⟨some (baselineTree ignored w), baselineTree ignored w⟩⟩ := by
  simp only [baseline, PyM.bind_apply, PyM.get_apply, Option.isSome_none, Bool.false_eq_true,
    if_false, runChecked, gitInit, PyM.modify_apply, gitAddAll, gitCommit, GitDir.headTree,
    Option.getD_none, baselineTree]
  split_ifs <;> rfl

/-- The baseline commit holds exactly what `git add -A` would stage from the workspace it leaves. -/
theorem view_baseline (w : Tree) :
    (view ignored ⟨appendGitignore w, some ⟨some (baselineTree ignored w), baselineTree ignored w⟩⟩).Same
      (baselineTree ignored w) := fun p => by
  simp only [view, Option.map_some', Option.getD_some, baselineTree, get_stageAll, Tree.get_empty,
    Option.isSome_none, Bool.false_or]
  cases ignored (appendGitignore w) p <;> simp

end Commands

/-! ## The agent's session -/

/-- What the agent can do to the workspace during its session. -/
inductive Action where
  /-- Create or overwrite a file, or change its mode. -/
  | write (p : String) (b : Blob)
  | remove (p : String)
  | rename (src dst : String)
  | gitAdd (p : String)
  | gitAddAll
  | gitCommit
  | gitReset (t : Tree)
  | gitCheckout (p : String)
  | gitStash
  /-- `rm -rf .git`. -/
  | removeGitDir

/-- The actions after which `HEAD` names the commit it named before. -/
def Action.keepsHead : Action → Bool
  | .gitCommit | .gitReset _ | .removeGitDir => false
  | _ => true

section Session

variable (ignored : Tree → String → Bool)

/-- One action on the workspace. -/
def act (r : Repo) : Action → Repo
  | .write p b => { r with work := r.work.set p b }
  | .remove p => { r with work := r.work.remove p }
  | .rename p q =>
    match r.work.get p with
    | some b => { r with work := (r.work.remove p).set q b }
    | none => r
  | .gitAdd p => (gitAdd ignored p r).2
  | .gitAddAll => (gitAddAll ignored r).2
  | .gitCommit => (gitCommit r).2
  | .gitReset t => (gitReset t r).2
  | .gitCheckout p => (gitCheckout p r).2
  | .gitStash => (gitStash r).2
  | .removeGitDir => { r with git := none }

/-- A whole session, action after action. -/
def runActions (r : Repo) (as : List Action) : Repo := as.foldl (act ignored) r

/-- `HEAD` of a repository, `none` when there is no repository. -/
def headOf (r : Repo) : Option (Option Tree) := r.git.map GitDir.head

/-- **Step lemma**: an action that keeps `HEAD` keeps the repository and its `HEAD`. -/
theorem headOf_act (r : Repo) (a : Action) (ha : a.keepsHead = true) :
    headOf (act ignored r a) = headOf r := by
  rcases r with ⟨w, _ | ⟨_ | h, i⟩⟩ <;> cases a <;> try cases ha
  all_goals
    simp only [act, gitAdd, gitAddAll, gitCheckout, gitStash, headOf]
    repeat' split
    all_goals rfl

/-- **Run lemma**: a session of actions that keep `HEAD` keeps it. -/
theorem headOf_runActions (r : Repo) (as : List Action) (has : ∀ a ∈ as, a.keepsHead = true) :
    headOf (runActions ignored r as) = headOf r := by
  induction as generalizing r with
  | nil => rfl
  | cons a as ih =>
    rw [runActions, List.foldl_cons, ← runActions,
      ih _ fun b hb => has b (List.mem_cons_of_mem a hb),
      headOf_act ignored r a (has a (List.mem_cons_self a as))]

/-! ## The patch -/

/-- After a fresh baseline and a session that keeps `HEAD`, the patch is the change from the
baseline commit, which holds the session-start view. -/
theorem stagedPatch_of_baseline {w : Tree} {r : Repo} {as : List Action}
    (hb : baseline ignored () ⟨w, none⟩ = .ok () r) (has : ∀ a ∈ as, a.keepsHead = true) :
    stagedPatch ignored (runActions ignored r as) =
        diffTrees (baselineTree ignored w) (view ignored (runActions ignored r as)) ∧
      (view ignored r).Same (baselineTree ignored w) := by
  rw [baseline_fresh] at hb
  split_ifs at hb
  cases hb
  obtain ⟨g, hg, hgh⟩ := Option.map_eq_some'.mp (headOf_runActions ignored
    ⟨appendGitignore w, some ⟨some (baselineTree ignored w), baselineTree ignored w⟩⟩ as has)
  refine ⟨?_, view_baseline ignored w⟩
  rw [stagedPatch_of_git ignored hg, GitDir.headTree, hgh, Option.getD_some]

/-- **The baseline is idempotent**: once it has run, running it again changes nothing — no second
commit. -/
theorem baseline_idempotent {ρ : Type} (e : ρ) (r r' : Repo) (h : baseline ignored e r = .ok () r') :
    baseline ignored e r' = .ok () r' := by
  apply baseline_of_git
  rcases r with ⟨w, _ | g⟩
  · rw [baseline_fresh] at h
    split_ifs at h
    cases h
    rfl
  · rw [baseline_of_git ignored e (r := ⟨w, some g⟩) rfl] at h
    cases h
    rfl

end Session

end HolonAdapter
