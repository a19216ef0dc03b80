import HolonAdapter.Settings
import HolonAdapter.Git.Repo
import HolonAdapter.Session

/-!
# Run/World — what one run of the adapter reads and changes

`run_adapter` reads its inputs, the environment, the agent's session and the results of the git
commands it starts (`Env`), and changes the files it writes under `/holon/output`, the settings
file and the workspace (`World`).  The statements of the run are `PyM Env World`.

Where a statement can raise for a reason outside the model — an OS error on an `open`, a dropped
connection, a cancelled `await` — the environment says what it raises there: `Env.fault` at that
statement's `Site`.  Reads of text can also raise for a reason inside the model: ill-formed UTF-8.

Writes are recorded as `Event`s, in order, together with the calls of `fix_permissions`.
-/

namespace HolonAdapter

/-- The files the adapter writes under `/holon/output`. -/
inductive OutFile where
  | manifest
  | diffPatch
  | summary
  /-- `evidence/execution.log`. -/
  | executionLog
  deriving DecidableEq, Repr

/-- `os.path.join(a, b)`: `b` when it is absolute, else `a`, a slash unless `a` is empty or ends
with one, and `b`. -/
def osPathJoin (a b : String) : String :=
  if b.data.head? = some '/' then b
  else if a = "" ∨ a.data.getLast? = some '/' then a ++ b
  else a ++ "/" ++ b

/-- `output_dir` (line 44). -/
def outputDir : String := "/holon/output"

/-- `evidence_dir` (line 46). -/
def evidenceDir : String := osPathJoin outputDir "evidence"

/-- `spec_path` (line 50). -/
def specPath : String := "/holon/input/spec.yaml"

/-- `prompt_path` (line 72). -/
def promptPath : String := "/holon/input/prompts/system.md"

/-- `user_prompt_path` (line 82). -/
def userPromptPath : String := "/holon/input/prompts/user.md"

/-- `workspace_path` (line 92). -/
def workspacePath : String := "/holon/workspace"

/-- Where each output file is: `log_file_path` (line 159) and the joins of lines 227, 230 and 246. -/
def OutFile.path : OutFile → String
  | .manifest => osPathJoin outputDir "manifest.json"
  | .diffPatch => osPathJoin outputDir "diff.patch"
  | .summary => osPathJoin outputDir "summary.md"
  | .executionLog => osPathJoin evidenceDir "execution.log"

/-- What happens to the output directory, in order. -/
inductive Event where
  /-- `open(path, 'w')` of an output file: its old content is gone. -/
  | write (f : OutFile)
  /-- A call of `fix_permissions(output_dir)`. -/
  | fixPermissions
  deriving DecidableEq, Repr

/-- The statements of `run_adapter` that can raise for a reason outside the model: the two
`os.makedirs` before the `try`, and the statements of the `try` block and of its handler. -/
inductive Site where
  /-- `os.makedirs(output_dir, exist_ok=True)` (line 45). -/
  | makeOutputDir
  /-- `os.makedirs(evidence_dir, exist_ok=True)` (line 47). -/
  | makeEvidenceDir
  | connect
  /-- `open(log_file_path, 'w')`. -/
  | openLog
  | query
  /-- The `await` for message `i` of the response stream — at `i` equal to the stream's length,
  the `await` that finds it exhausted. -/
  | receive (i : ℕ)
  /-- The log line of message `i`. -/
  | logMessage (i : ℕ)
  | logFinal
  | gitAdd
  | gitDiff
  | writeManifest
  | writeDiff
  | readSummary
  | writeSummary
  /-- The handler's own write of `manifest.json`. -/
  | writeFailureManifest
  deriving DecidableEq, Repr

/-- What a run reads. -/
structure Env where
  host : Host
  /-- `yaml.safe_load` on decoded text. -/
  yamlLoad : List Char → Option Json
  /-- `str(v)`. -/
  pyStr : Json → String
  /-- `/holon/input/spec.yaml`, `prompts/system.md`, `prompts/user.md`, when they exist. -/
  specYaml : Option Bytes
  systemMd : Option Bytes
  userMd : Option Bytes
  /-- The workspace's ignore rules. -/
  ignored : Tree → String → Bool
  /-- The text `git diff --cached --patch --binary --full-index` prints for a change list. -/
  renderPatch : List Change → Bytes
  /-- `str(msg)`. -/
  msgStr : Message → String
  /-- The response stream. -/
  messages : List Message
  /-- What the agent does to the workspace during its session. -/
  agentActions : List Action
  /-- The `summary.md` the agent writes into the output directory, if it writes one. -/
  agentSummary : Option Bytes
  fault : Site → Option PyExc
  /-- `datetime.now()` at lines 158 and 193, in microseconds. -/
  startTime : ℤ
  endTime : ℤ

/-- What a run changes. -/
structure World where
  files : OutFile → Option Bytes
  events : List Event
  /-- `~/.claude/settings.json`. -/
  settings : Option Bytes
  /-- `/holon/workspace`. -/
  repo : Repo

namespace World

/-- `open(path, 'w')` and one write: the file holds `b`. -/
def write (w : World) (f : OutFile) (b : Bytes) : World :=
  { w with files := Function.update w.files f (some b), events := w.events ++ [.write f] }

/-- A further write to the open log file. -/
def appendLog (w : World) (b : Bytes) : World :=
  { w with files := Function.update w.files .executionLog ((w.files .executionLog).map (· ++ b)) }

/-- The call `fix_permissions(output_dir)`. -/
def fixPermissions (w : World) : World := { w with events := w.events ++ [.fixPermissions] }

@[simp] theorem write_files (w : World) (f g : OutFile) (b : Bytes) :
    (w.write f b).files g = if g = f then some b else w.files g := by
  simp only [write, Function.update_apply]

@[simp] theorem write_events (w : World) (f : OutFile) (b : Bytes) :
    (w.write f b).events = w.events ++ [.write f] := rfl

@[simp] theorem write_repo (w : World) (f : OutFile) (b : Bytes) : (w.write f b).repo = w.repo :=
  rfl

@[simp] theorem appendLog_files (w : World) (b : Bytes) (g : OutFile) :
    (w.appendLog b).files g =
      if g = .executionLog then (w.files .executionLog).map (· ++ b) else w.files g := by
  simp only [appendLog, Function.update_apply]

@[simp] theorem appendLog_events (w : World) (b : Bytes) : (w.appendLog b).events = w.events := rfl

@[simp] theorem appendLog_repo (w : World) (b : Bytes) : (w.appendLog b).repo = w.repo := rfl

@[simp] theorem fixPermissions_files (w : World) : w.fixPermissions.files = w.files := rfl

@[simp] theorem fixPermissions_events (w : World) :
    w.fixPermissions.events = w.events ++ [.fixPermissions] := rfl

theorem appendLog_nil (w : World) : w.appendLog [] = w := by
  simp [appendLog]

theorem appendLog_appendLog (w : World) (b c : Bytes) :
    (w.appendLog b).appendLog c = w.appendLog (b ++ c) := by
  have hc : ((· ++ c) ∘ (· ++ b) : Bytes → Bytes) = (· ++ (b ++ c)) := funext fun x => by simp
  simp only [appendLog, Function.update_same, Function.update_idem, Option.map_map, hc]

end World

/-! ## Primitive statements -/

/-- A statement at `site`: it raises the environment's fault there, if there is one. -/
def mayRaise (site : Site) : PyM Env World Unit := fun env w =>
  match env.fault site with
  | some e => .raised e w
  | none => .ok () w

/-- `with open(path, 'w') as f: f.write(text)` at `site`. -/
def writeText (site : Site) (f : OutFile) (text : String) : PyM Env World Unit := do
  mayRaise site
  PyM.modify (·.write f (encodeUtf8 text.data))

/-- `log_file.write(text)` at `site`. -/
def logWrite (site : Site) (text : String) : PyM Env World Unit := do
  mayRaise site
  PyM.modify (·.appendLog (encodeUtf8 text.data))

section Primitives

variable {α : Type} {env : Env} {w w' : World} {s : Site}

theorem mayRaise_eq_ok {u : Unit} : mayRaise s env w = .ok u w' ↔ env.fault s = none ∧ w' = w := by
  cases h : env.fault s <;> simp [mayRaise, h, eq_comm]

theorem stateless_mayRaise (s : Site) : PyM.Stateless (mayRaise s) := fun env w => by
  unfold mayRaise
  split <;> rfl

theorem mayRaise_then_of_none (h : env.fault s = none) (x : PyM Env World α) :
    (do mayRaise s; x) env w = x env w := by
  simp [PyM.bind_apply, mayRaise, h]

theorem mayRaise_then_of_some {e : PyExc} (h : env.fault s = some e) (x : PyM Env World α) :
    (do mayRaise s; x) env w = .raised e w := by
  simp [PyM.bind_apply, mayRaise, h]

/-- **A statement at a site runs on exactly when nothing is raised there.** -/
theorem mayRaise_then_eq_ok {x : PyM Env World α} {a : α} :
    (do mayRaise s; x) env w = .ok a w' ↔ env.fault s = none ∧ x env w = .ok a w' := by
  cases h : env.fault s with
  | none => simp [mayRaise_then_of_none h]
  | some e => simp [mayRaise_then_of_some h]

theorem writeText_eq_ok {f : OutFile} {t : String} {u : Unit} :
    writeText s f t env w = .ok u w' ↔ env.fault s = none ∧ w' = w.write f (encodeUtf8 t.data) := by
  rw [writeText, mayRaise_then_eq_ok]
  simp [eq_comm]

theorem logWrite_eq_ok {t : String} {u : Unit} :
    logWrite s t env w = .ok u w' ↔ env.fault s = none ∧ w' = w.appendLog (encodeUtf8 t.data) := by
  rw [logWrite, mayRaise_then_eq_ok]
  simp [eq_comm]

end Primitives

/-! ## A run for the worked cases -/

/-- The environment of the worked runs: every input present, a spec whose goal is `fix`, a stream
of one successful result, nothing raising, an agent that changes nothing, and a host whose
`json.dump` prints only a manifest's outcome. -/
def sampleEnv : Env where
  host := ⟨fun _ => none, ⟨fun _ => none, fun d _ =>
    match d.member "outcome" with
    | some (.str o) => o.data
    | _ => []⟩⟩
  yamlLoad := fun _ => some (.obj [("goal", .str "fix")])
  pyStr := fun
    | .str s => s
    | _ => ""
  specYaml := some []
  systemMd := some []
  userMd := some []
  ignored := fun _ _ => false
  renderPatch := fun _ => []
  msgStr := fun _ => "msg"
  messages := [.resultMessage "success" false]
  agentActions := []
  agentSummary := none
  fault := fun _ => none
  startTime := 0
  endTime := 0

/-- An empty output directory, no settings file, and a workspace repository with no commit. -/
def sampleWorld : World := ⟨fun _ => none, [], none, ⟨.empty, some ⟨none, .empty⟩⟩⟩

end HolonAdapter
