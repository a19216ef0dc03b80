import HolonAdapter.Run.Artifacts

/-!
# Run/Adapter — `run_adapter`, and its failure boundary

The run has two halves.  Before line 163 (`prepare`) it makes the output directories, reads the
task spec and the two prompts, gives the workspace its baseline and syncs the settings; a missing input ends the process with
`sys.exit(1)`, and anything else raised there ends it with a traceback.  From line 163 on
(`tryStatement`) the session and the artifacts run under `except Exception`, whose handler writes
a failure manifest, calls `fix_permissions` and exits with status 1.

* `tryStatement_eq_ok` — the `try` statement returns exactly when its body does;
* `tryStatement_of_isException`, `tryStatement_of_not_isException` — an `Exception` raised in the
  body ends with the failure manifest written and `fix_permissions` called; any other exception
  leaves the `try` statement exactly as the body raised it.
-/

namespace HolonAdapter

/-! ## Before the `try` (lines 41–160) -/

/-- A `yaml.YAMLError`, up to the parser's message. -/
def yamlError : PyExc := ⟨.exception "YAMLError", "while parsing"⟩

/-- **Lines 49–63**: the goal from `spec.yaml`.  The value returned is the one whose `str` is the
task goal: `goal_val.get('description', '')` for a dict, else `goal_val` itself, as
`str(str(v)) = str(v)`. -/
def loadGoal : PyM Env World Json := do
  match (← PyM.read).specYaml with
  | none => PyM.raise (PyExc.sysExit 1)
  | some b =>
    let text ← readFile b
    match (← PyM.read).yamlLoad text with
    | none => PyM.raise yamlError
    | some spec =>
      let goalVal ← getAttr spec "goal" (.str "")
      match goalVal with
      | .obj _ => getAttr goalVal "description" (.str "")
      | _ => pure goalVal

/-- Lines 72–89: a compiled prompt, or `sys.exit(1)` when it is missing. -/
def readPrompt (prompt : Option Bytes) : PyM Env World (List Char) :=
  match prompt with
  | none => PyM.raise (PyExc.sysExit 1)
  | some b => readFile b

/-- **Lines 41–160**: everything before the `try`; it returns the goal.  The output and evidence
directories are made first (lines 44–47); `Fs/Operations` shows what on a file system makes those
two statements raise. -/
def prepare : PyM Env World Json := do
  mayRaise .makeOutputDir
  mayRaise .makeEvidenceDir
  let goal ← loadGoal
  let env ← PyM.read
  let _systemInstruction ← readPrompt env.systemMd
  let _userMsg ← readPrompt env.userMd
  PyM.embed (fun _ => ()) World.repo (fun r w => { w with repo := r }) (baseline env.ignored)
  PyM.embed Env.host World.settings (fun c w => { w with settings := c }) syncSettings
  pure goal

/-! ### What the reads of the inputs do -/

theorem stateless_loadGoal : PyM.Stateless loadGoal := by
  refine PyM.stateless_bind PyM.stateless_read fun env => ?_
  split
  · exact PyM.stateless_raise _
  · refine PyM.stateless_bind (stateless_readFile _) fun _ =>
      PyM.stateless_bind PyM.stateless_read fun _ => ?_
    split
    · exact PyM.stateless_raise _
    · refine PyM.stateless_bind (stateless_getAttr _ _ _) fun goalVal => ?_
      split
      · exact stateless_getAttr _ _ _
      · exact PyM.stateless_pure _

theorem stateless_readPrompt (prompt : Option Bytes) : PyM.Stateless (readPrompt prompt) := by
  cases prompt
  · exact PyM.stateless_raise _
  · exact stateless_readFile _

/-! ## The `try` statement (lines 163–263) -/

/-- Lines 164–250, the body of the `try`. -/
def tryBody (goal : Json) : PyM Env World Unit := do
  mayRaise .connect
  let (result, success) ← sessionBlock
  generateArtifacts goal result success

/-- Lines 253–263, the handler of `except Exception as e`. -/
def exceptBlock (e : PyExc) : PyM Env World Unit := do
  writeManifest .writeFailureManifest (failureManifest e.text)
  PyM.modify World.fixPermissions
  PyM.raise (PyExc.sysExit 1)

/-- **Lines 163–263.** -/
def tryStatement (goal : Json) : PyM Env World Unit := PyM.tryExcept (tryBody goal) exceptBlock

/-- **`run_adapter`.** -/
def runAdapter : PyM Env World Unit := do
  let goal ← prepare
  tryStatement goal

/-! ## The body, and the boundary -/

section Boundary

variable {goal : Json} {env : Env} {w w' : World}

/-- **The body of the `try`** returns exactly when connecting, the session block and the artifact
step raise nothing, the last from the world the session leaves. -/
theorem tryBody_eq_ok {u : Unit} :
    tryBody goal env w = .ok u w' ↔
      env.fault .connect = none ∧ SessionClear env ∧
        generateArtifacts goal (sessionResult env) (streamSuccess env.messages) env
          (sessionWorld env w) = .ok () w' := by
  rw [tryBody, mayRaise_then_eq_ok, PyM.bind_eq_ok]
  constructor
  · rintro ⟨hc, ⟨r, w1, hs, hg⟩⟩
    obtain ⟨hcl, rfl, rfl⟩ := sessionBlock_eq_ok.mp hs
    exact ⟨hc, hcl, hg⟩
  · rintro ⟨hc, hcl, hg⟩
    exact ⟨hc, _, _, sessionBlock_eq_ok.mpr ⟨hcl, rfl, rfl⟩, hg⟩

/-- Once connecting and the session block raise nothing, the body is the artifact step, from the
world the session leaves. -/
theorem tryBody_of_clear (hc : env.fault .connect = none) (hs : SessionClear env) :
    tryBody goal env w = generateArtifacts goal (sessionResult env) (streamSuccess env.messages) env
      (sessionWorld env w) := by
  rw [tryBody, mayRaise_then_of_none hc, PyM.bind_of_ok (sessionBlock_eq_ok.mpr ⟨hs, rfl, rfl⟩)]

/-- The handler, when its own write succeeds: the failure manifest, `fix_permissions`, and
`SystemExit(1)`. -/
theorem exceptBlock_apply (e : PyExc) (hf : env.fault .writeFailureManifest = none) :
    exceptBlock e env w = .raised (PyExc.sysExit 1)
      ((w.write .manifest (encodeUtf8 (env.host.jsonDumps (failureManifest e.text)))).fixPermissions) := by
  rw [exceptBlock, PyM.bind_of_ok (writeManifest_eq_ok.mpr ⟨hf, rfl⟩ : _ = .ok () _)]
  rfl

/-- The handler never returns. -/
theorem exceptBlock_ne_ok (e : PyExc) (u : Unit) : exceptBlock e env w ≠ .ok u w' := by
  intro h
  obtain ⟨_, w1, -, h⟩ := PyM.bind_eq_ok.mp h
  cases h

/-- **The `try` statement returns exactly when its body does.** -/
theorem tryStatement_eq_ok {u : Unit} : tryStatement goal env w = .ok u w' ↔ tryBody goal env w = .ok u w' := by
  rw [tryStatement]
  constructor
  · intro h
    cases hb : tryBody goal env w with
    | ok a s => rwa [PyM.tryExcept_of_ok hb] at h
    | raised e s =>
      cases he : e.isException
      · rw [PyM.tryExcept_of_not_isException hb he] at h; cases h
      · rw [PyM.tryExcept_of_isException hb he] at h; exact absurd h (exceptBlock_ne_ok e u)
  · exact PyM.tryExcept_of_ok

/-- **An `Exception` raised in the body** ends the run with the failure manifest written over
whatever `manifest.json` held, `fix_permissions` called after it, and `SystemExit(1)`. -/
theorem tryStatement_of_isException {e : PyExc} (hb : tryBody goal env w = .raised e w')
    (he : e.isException = true) (hf : env.fault .writeFailureManifest = none) :
    tryStatement goal env w = .raised (PyExc.sysExit 1)
      ((w'.write .manifest (encodeUtf8 (env.host.jsonDumps (failureManifest e.text)))).fixPermissions) := by
  rw [tryStatement, PyM.tryExcept_of_isException hb he, exceptBlock_apply e hf]

/-- **Any other exception** leaves the `try` statement as the body raised it: no failure manifest,
no `fix_permissions`. -/
theorem tryStatement_of_not_isException {e : PyExc} (hb : tryBody goal env w = .raised e w')
    (he : e.isException = false) : tryStatement goal env w = .raised e w' :=
  PyM.tryExcept_of_not_isException hb he

end Boundary

end HolonAdapter
