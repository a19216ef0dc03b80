import HolonAdapter.Run.Loop

/-!
# Run/Artifacts — the patch, the manifest and the summary (lines 193–250)

After the session the adapter stages the workspace with `git add -A`, captures
`git diff --cached --patch --binary --full-index` with `text=True`, and writes `manifest.json`,
`diff.patch` and `summary.md` — the agent's own `summary.md` read back in text mode when there is
one, a summary built from the goal and the session's text otherwise.  It then calls
`fix_permissions`.

Neither git command is checked: `diffStdout` is what the diff prints, empty when it fails, and the
manifest's outcome is `success` from the stream alone.

`generateArtifacts_eq_ok` — the step returns exactly when none of its statements raises and both
texts it reads decode, and it then leaves the three files and the events it is expected to.
-/

namespace HolonAdapter

/-! ## The statements -/

/-- What `git diff --cached` prints on standard output: the rendered patch, or nothing when the
command fails. -/
def diffStdout (env : Env) (r : Repo) : Bytes :=
  match gitDiffCached r with
  | (0, changes) => env.renderPatch changes
  | _ => []

/-- `git add -A` run by `subprocess.run` without `check` (line 198): its exit status is dropped. -/
def stageWorkspace (env : Env) (w : World) : World :=
  { w with repo := (gitAddAll env.ignored w.repo).2 }

/-- **Lines 198–206**: `git add -A`, then `patch_content`, the cached diff captured with
`text=True`. -/
def stageAndDiff : PyM Env World String := do
  let env ← PyM.read
  mayRaise .gitAdd
  PyM.modify (stageWorkspace env)
  mayRaise .gitDiff
  let patchContent ← readFile (diffStdout env (← PyM.get).repo)
  pure (String.mk patchContent)

/-- The manifest of lines 211–224, from the duration in microseconds: `total_seconds()` divides it
by `10^6` into the nearest `float`. -/
def successManifest (success : Bool) (duration : ℤ) : Json :=
  .obj [("metadata", .obj [("adapter", .str "claude-code"), ("version", .str "0.1.0")]),
    ("status", .str "completed"),
    ("outcome", .str (if success then "success" else "failure")),
    ("duration", .float (Float64.ofRat (decide (duration < 0)) duration.natAbs 1000000)),
    ("artifacts", .arr [
      .obj [("name", .str "diff.patch"), ("path", .str "diff.patch")],
      .obj [("name", .str "summary.md"), ("path", .str "summary.md")],
      .obj [("name", .str "evidence"), ("path", .str "evidence/")]])]

/-- The manifest of lines 255–259. -/
def failureManifest (error : String) : Json :=
  .obj [("status", .str "completed"), ("outcome", .str "failure"), ("error", .str error)]

/-- `with open(manifest, 'w') as f: json.dump(m, f, indent=2)` at `site`. -/
def writeManifest (site : Site) (m : Json) : PyM Env World Unit := do
  writeText site .manifest (String.mk ((← PyM.read).host.jsonDumps m))

/-- The summary of line 244, from `display_goal`. -/
def fallbackSummary (displayGoal result : String) (success : Bool) : String :=
  "# Task Summary\n\nGoal: " ++ displayGoal ++ "\n\nOutcome: " ++
    (if success then "Success" else "Failure") ++ "\n\n## Actions\n" ++ result ++ "\n"

/-- **Lines 234–244**: `summary_text` — the `summary.md` in the output directory read in text mode,
or the fallback. -/
def resolveSummary (goal : Json) (result : String) (success : Bool) : PyM Env World String := do
  match (← PyM.get).files .summary with
  | some c =>
    mayRaise .readSummary
    pure (String.mk (← readFile c))
  | none => pure (fallbackSummary (((← PyM.read).pyStr goal).replace "\n" " ") result success)

/-- **Lines 193–250**: the artifacts, then `fix_permissions(output_dir)`. -/
def generateArtifacts (goal : Json) (result : String) (success : Bool) : PyM Env World Unit := do
  let env ← PyM.read
  let patchContent ← stageAndDiff
  writeManifest .writeManifest (successManifest success (env.endTime - env.startTime))
  writeText .writeDiff .diffPatch patchContent
  let summaryText ← resolveSummary goal result success
  writeText .writeSummary .summary summaryText
  PyM.modify World.fixPermissions

/-! ## What each statement does -/

/-- The patch text the diff capture returns, when it decodes. -/
def patchText (env : Env) (r : Repo) : Option String :=
  (readText (diffStdout env (gitAddAll env.ignored r).2)).map String.mk

/-- The summary text lines 236–244 resolve from the `summary.md` found, when reading raises
nothing. -/
def resolvedSummary (env : Env) (found : Option Bytes) (goal : Json) (result : String)
    (success : Bool) : Option String :=
  match found with
  | some c => if env.fault .readSummary = none then (readText c).map String.mk else none
  | none => some (fallbackSummary ((env.pyStr goal).replace "\n" " ") result success)

section Statements

variable {env : Env} {w w' : World}

@[simp] theorem stageWorkspace_files (w : World) : (stageWorkspace env w).files = w.files := rfl

@[simp] theorem stageWorkspace_events (w : World) : (stageWorkspace env w).events = w.events := rfl

theorem stageAndDiff_eq_ok {p : String} :
    stageAndDiff env w = .ok p w' ↔ env.fault .gitAdd = none ∧ env.fault .gitDiff = none ∧
      patchText env w.repo = some p ∧ w' = stageWorkspace env w := by
  simp only [stageAndDiff, PyM.bind_of_ok (PyM.read_apply env w), PyM.bind_eq_ok, mayRaise_eq_ok,
    PyM.modify_apply, PyM.get_apply, readFile_eq_ok, PyM.pure_apply, Res.ok.injEq, patchText,
    Option.map_eq_some', exists_and_left, exists_eq_left, exists_eq_right, exists_const, true_and,
    and_true, exists_eq_right_right, exists_eq_left', and_assoc]
  constructor
  · rintro ⟨ha, hd, t, ht, rfl, rfl⟩
    exact ⟨ha, hd, ⟨t, ht, rfl⟩, rfl⟩
  · rintro ⟨ha, hd, ⟨t, ht, rfl⟩, rfl⟩
    exact ⟨ha, hd, t, ht, rfl, rfl⟩

/-- An output of `git diff` that does not decode fails the capture, after `git add -A`. -/
theorem stageAndDiff_of_undecodable (ha : env.fault .gitAdd = none) (hd : env.fault .gitDiff = none)
    (hb : readText (diffStdout env (gitAddAll env.ignored w.repo).2) = none) :
    stageAndDiff env w = .raised unicodeDecodeError (stageWorkspace env w) := by
  rw [stageAndDiff, PyM.bind_of_ok (PyM.read_apply env w), mayRaise_then_of_none ha,
    PyM.bind_of_ok (PyM.modify_apply _ env w), mayRaise_then_of_none hd,
    PyM.bind_of_ok (PyM.get_apply env _),
    PyM.bind_of_raised (readFile_of_none (b := diffStdout env (stageWorkspace env w).repo) hb _ _)]

theorem writeManifest_eq_ok {s : Site} {m : Json} {u : Unit} :
    writeManifest s m env w = .ok u w' ↔
      env.fault s = none ∧ w' = w.write .manifest (encodeUtf8 (env.host.jsonDumps m)) := by
  rw [writeManifest, PyM.bind_of_ok (PyM.read_apply env w), writeText_eq_ok]

theorem resolveSummary_eq_ok {goal : Json} {result t : String} {success : Bool} :
    resolveSummary goal result success env w = .ok t w' ↔
      resolvedSummary env (w.files .summary) goal result success = some t ∧ w' = w := by
  rw [resolveSummary, PyM.bind_of_ok (PyM.get_apply env w)]
  cases hs : w.files .summary with
  | none => simp [resolvedSummary, PyM.bind_apply, eq_comm]
  | some c =>
    cases hf : env.fault .readSummary with
    | none =>
      cases ht : readText c <;>
        simp [resolvedSummary, hf, ht, mayRaise_then_of_none hf, PyM.bind_apply, readFile, eq_comm]
    | some e => simp [resolvedSummary, mayRaise_then_of_some hf, hf]

/-- A `summary.md` that does not decode fails the read. -/
theorem resolveSummary_of_undecodable {goal : Json} {result : String} {success : Bool} {c : Bytes}
    (hs : w.files .summary = some c) (hr : env.fault .readSummary = none) (hc : readText c = none) :
    resolveSummary goal result success env w = .raised unicodeDecodeError w := by
  rw [resolveSummary, PyM.bind_of_ok (PyM.get_apply env w)]
  simp only [hs]
  rw [mayRaise_then_of_none hr, PyM.bind_of_raised (readFile_of_none hc _ _)]

/-- **The artifact step.**  It returns exactly when none of its statements raises, the diff's output
decodes and the summary resolves; it then writes the manifest, the patch and the summary, in that
order, and calls `fix_permissions` last. -/
theorem generateArtifacts_eq_ok {goal : Json} {result : String} {success : Bool} {u : Unit} :
    generateArtifacts goal result success env w = .ok u w' ↔
      env.fault .gitAdd = none ∧ env.fault .gitDiff = none ∧ env.fault .writeManifest = none ∧
      env.fault .writeDiff = none ∧ env.fault .writeSummary = none ∧
      ∃ p s, patchText env w.repo = some p ∧
        resolvedSummary env (w.files .summary) goal result success = some s ∧
        w' = ((((stageWorkspace env w).write .manifest (encodeUtf8 (env.host.jsonDumps
          (successManifest success (env.endTime - env.startTime))))).write .diffPatch
          (encodeUtf8 p.data)).write .summary (encodeUtf8 s.data)).fixPermissions := by
  simp only [generateArtifacts, PyM.bind_of_ok (PyM.read_apply env w), PyM.bind_eq_ok,
    stageAndDiff_eq_ok, writeManifest_eq_ok, writeText_eq_ok, resolveSummary_eq_ok,
    PyM.modify_apply, Res.ok.injEq, exists_and_left, exists_eq_left, exists_eq_right, exists_const,
    true_and, and_true, exists_eq_right_right, exists_eq_left', and_assoc, World.write_files,
    stageWorkspace_files, reduceCtorEq, if_false]
  constructor
  · rintro ⟨ha, hd, p, hp, hm, hdf, s, hs, hws, rfl⟩
    exact ⟨ha, hd, hm, hdf, hws, p, hp, s, hs, rfl⟩
  · rintro ⟨ha, hd, hm, hdf, hws, p, hp, s, hs, rfl⟩
    exact ⟨ha, hd, p, hp, hm, hdf, s, hs, hws, rfl⟩

/-- **A `summary.md` that does not decode fails the artifact step** after the manifest and the
patch are written. -/
theorem generateArtifacts_of_undecodable_summary {goal : Json} {result : String} {success : Bool}
    {p : String} {c : Bytes} (ha : env.fault .gitAdd = none) (hd : env.fault .gitDiff = none)
    (hp : patchText env w.repo = some p) (hm : env.fault .writeManifest = none)
    (hdf : env.fault .writeDiff = none) (hr : env.fault .readSummary = none)
    (hs : w.files .summary = some c) (hc : readText c = none) :
    generateArtifacts goal result success env w = .raised unicodeDecodeError
      (((stageWorkspace env w).write .manifest (encodeUtf8 (env.host.jsonDumps
        (successManifest success (env.endTime - env.startTime))))).write .diffPatch
        (encodeUtf8 p.data)) := by
  rw [generateArtifacts, PyM.bind_of_ok (PyM.read_apply env w),
    PyM.bind_of_ok (stageAndDiff_eq_ok.mpr ⟨ha, hd, hp, rfl⟩),
    PyM.bind_of_ok ((writeManifest_eq_ok (u := ())).mpr ⟨hm, rfl⟩),
    PyM.bind_of_ok ((writeText_eq_ok (u := ())).mpr ⟨hdf, rfl⟩), PyM.bind_of_raised (resolveSummary_of_undecodable (by simp [hs]) hr hc)]

end Statements

end HolonAdapter
