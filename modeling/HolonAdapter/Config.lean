import HolonAdapter.Permissions
import HolonAdapter.Run.World

/-!
# Config — `HolonConfig` (config.py): the paths from one root, and the settings from the environment

`HolonConfig` resolves a root once — its argument, else `HOLON_ROOT`, else `/holon` — and derives
every path from it with `pathlib`'s `/`.  Its getters read the environment, each with its default;
the only one that can meet an error is `_int_env`, on a value `int()` refuses, and its
`except ValueError` turns that into the default.

* `HolonConfig.paths_under_root` — whatever the root, each path is the root followed by a fixed
  sub-path;
* `holonConfig_default_paths` — at the default root, they are the paths `run_adapter` hard-codes;
* `intEnv_eq` — `_int_env` never raises and changes nothing: it returns the parsed value, or the
  default;
* `fixPermissions_eq_config`, `authToken_eq_config` — `fix_permissions` and the settings sync read
  the host identity, the token and the base URL as `HolonConfig` does.
-/

namespace HolonAdapter

/-! ## `pathlib` paths -/

/-- `s.split("/")`, on the characters of `s`. -/
def splitSlash : List Char → List (List Char)
  | [] => [[]]
  | c :: cs =>
    if c = '/' then [] :: splitSlash cs
    else match splitSlash cs with
      | [] => [[c]]
      | p :: ps => (c :: p) :: ps

/-- A `PurePosixPath`: its root (`""`, `"/"` or `"//"`), and its parts. -/
structure PurePath where
  root : String
  parts : List String
  deriving DecidableEq, Repr

namespace PurePath

/-- The root `posixpath.splitroot` finds: exactly two leading slashes are kept, three or more count
as one. -/
def rootOf : List Char → String
  | '/' :: '/' :: '/' :: _ => "/"
  | '/' :: '/' :: _ => "//"
  | '/' :: _ => "/"
  | _ => ""

/-- `PurePosixPath(s)`: the root, and the parts between slashes other than empty ones and `.`. -/
def parse (s : String) : PurePath :=
  ⟨rootOf s.data, ((splitSlash s.data).filter fun p => p != [] && p != ['.']).map String.mk⟩

/-- `path / s`: the two joined by `os.path.join`, then parsed — an absolute `s` replaces the
path. -/
def div (p : PurePath) (s : String) : PurePath :=
  if (parse s).root = "" then ⟨p.root, p.parts ++ (parse s).parts⟩ else parse s

instance : HDiv PurePath String PurePath := ⟨div⟩

/-- `str(path)`. -/
def str (p : PurePath) : String :=
  if p.root = "" ∧ p.parts = [] then "." else p.root ++ "/".intercalate p.parts

/-- A single relative part is appended. -/
theorem div_part (p : PurePath) {s : String} (h : parse s = ⟨"", [s]⟩) :
    p / s = ⟨p.root, p.parts ++ [s]⟩ := by
  show div p s = _
  rw [div, h, if_pos rfl]

end PurePath

/-! ## `HolonConfig` -/

/-- A `HolonConfig`, by the root it resolved. -/
structure HolonConfig where
  holonRoot : String
  deriving DecidableEq, Repr

namespace HolonConfig

/-- **`HolonConfig(holon_root)`** (config.py 17–26): `holon_root or os.environ.get("HOLON_ROOT",
"/holon")`. -/
def init (environ : String → Option String) (holonRoot : Option String) : HolonConfig :=
  ⟨match holonRoot with
    | some r => if r = "" then (environ "HOLON_ROOT").getD "/holon" else r
    | none => (environ "HOLON_ROOT").getD "/holon"⟩

/-- `root_path`. -/
def rootPath (c : HolonConfig) : PurePath := .parse c.holonRoot

/-- `input_dir` (29–31). -/
def inputDir (c : HolonConfig) : PurePath := c.rootPath / "input"

/-- `workspace_dir` (34–36). -/
def workspaceDir (c : HolonConfig) : PurePath := c.rootPath / "workspace"

/-- `output_dir` (39–41). -/
def outputDir (c : HolonConfig) : PurePath := c.rootPath / "output"

/-- `evidence_dir` (44–46). -/
def evidenceDir (c : HolonConfig) : PurePath := c.outputDir / "evidence"

/-- `spec_path` (49–51). -/
def specPath (c : HolonConfig) : PurePath := c.inputDir / "spec.yaml"

/-- `system_prompt_path` (54–56). -/
def systemPromptPath (c : HolonConfig) : PurePath := c.inputDir / "prompts" / "system.md"

/-- `user_prompt_path` (59–61). -/
def userPromptPath (c : HolonConfig) : PurePath := c.inputDir / "prompts" / "user.md"

/-- `execution_log_path` (64–66). -/
def executionLogPath (c : HolonConfig) : PurePath := c.evidenceDir / "execution.log"

/-- `manifest_path` (69–71). -/
def manifestPath (c : HolonConfig) : PurePath := c.outputDir / "manifest.json"

/-- `diff_path` (74–76). -/
def diffPath (c : HolonConfig) : PurePath := c.outputDir / "diff.patch"

/-- `summary_path` (79–81). -/
def summaryPath (c : HolonConfig) : PurePath := c.outputDir / "summary.md"

/-- **Every path is a fixed sub-path of the root**, whatever the root is. -/
theorem paths_under_root (c : HolonConfig) :
    c.workspaceDir = ⟨c.rootPath.root, c.rootPath.parts ++ ["workspace"]⟩ ∧
    c.specPath = ⟨c.rootPath.root, c.rootPath.parts ++ ["input", "spec.yaml"]⟩ ∧
    c.systemPromptPath = ⟨c.rootPath.root, c.rootPath.parts ++ ["input", "prompts", "system.md"]⟩ ∧
    c.userPromptPath = ⟨c.rootPath.root, c.rootPath.parts ++ ["input", "prompts", "user.md"]⟩ ∧
    c.executionLogPath =
      ⟨c.rootPath.root, c.rootPath.parts ++ ["output", "evidence", "execution.log"]⟩ ∧
    c.manifestPath = ⟨c.rootPath.root, c.rootPath.parts ++ ["output", "manifest.json"]⟩ ∧
    c.diffPath = ⟨c.rootPath.root, c.rootPath.parts ++ ["output", "diff.patch"]⟩ ∧
    c.summaryPath = ⟨c.rootPath.root, c.rootPath.parts ++ ["output", "summary.md"]⟩ := by
  simp (disch := decide) only [workspaceDir, specPath, systemPromptPath, userPromptPath,
    executionLogPath, evidenceDir, manifestPath, diffPath, summaryPath, outputDir, inputDir,
    PurePath.div_part, List.append_assoc, List.singleton_append, List.cons_append, List.nil_append,
    and_self]

/-! ## The environment's settings -/

/-- `a or b` on two values of `os.environ.get`: `a`, unless it is unset or empty. -/
def pyOr (a b : Option String) : Option String :=
  match a with
  | some s => if s = "" then b else a
  | none => b

/-- `a or b` for a string `b`. -/
def pyOrElse (a : Option String) (b : String) : String :=
  match a with
  | some s => if s = "" then b else s
  | none => b

/-- `get_env_auth_token` (93–95). -/
def getEnvAuthToken (environ : String → Option String) : Option String :=
  pyOr (environ "ANTHROPIC_AUTH_TOKEN") (environ "ANTHROPIC_API_KEY")

/-- `get_env_base_url` (97–103). -/
def getEnvBaseUrl (environ : String → Option String) : String :=
  pyOrElse (pyOr (environ "ANTHROPIC_BASE_URL") (environ "ANTHROPIC_API_URL"))
    "https://api.anthropic.com"

/-- `get_env_model` (105–107). -/
def getEnvModel (environ : String → Option String) : Option String := environ "HOLON_MODEL"

/-- `get_env_fallback_model` (109–111). -/
def getEnvFallbackModel (environ : String → Option String) : Option String :=
  environ "HOLON_FALLBACK_MODEL"

/-- `get_env_log_level` (113–115). -/
def getEnvLogLevel (environ : String → Option String) : String :=
  (environ "LOG_LEVEL").getD "progress"

section IntEnv

variable {σ : Type}

/-- **`_int_env(name, default)`** (141–149). -/
def intEnv (name : String) (default : Option ℤ) : PyM FsEnv σ (Option ℤ) := do
  match (← PyM.read).environ name with
  | none => pure default
  | some value =>
    if value = "" then pure default
    else PyM.tryCatch PyExc.isValueError (some <$> parseInt value) fun _ => pure default

/-- `get_env_timeout_seconds` (117–119). -/
def getEnvTimeoutSeconds : PyM FsEnv σ (Option ℤ) := intEnv "HOLON_QUERY_TIMEOUT_SECONDS" (some 300)

/-- `get_env_heartbeat_seconds` (121–123). -/
def getEnvHeartbeatSeconds : PyM FsEnv σ (Option ℤ) := intEnv "HOLON_HEARTBEAT_SECONDS" (some 60)

/-- `get_env_idle_timeout_seconds` (125–127). -/
def getEnvIdleTimeoutSeconds : PyM FsEnv σ (Option ℤ) :=
  intEnv "HOLON_RESPONSE_IDLE_TIMEOUT_SECONDS" (some 1800)

/-- `get_env_total_timeout_seconds` (129–131). -/
def getEnvTotalTimeoutSeconds : PyM FsEnv σ (Option ℤ) :=
  intEnv "HOLON_RESPONSE_TOTAL_TIMEOUT_SECONDS" (some 7200)

/-- `get_env_host_uid` (133–135). -/
def getEnvHostUid : PyM FsEnv σ (Option ℤ) := intEnv "HOST_UID" none

/-- `get_env_host_gid` (137–139). -/
def getEnvHostGid : PyM FsEnv σ (Option ℤ) := intEnv "HOST_GID" none

/-- The value `_int_env(name, default)` returns. -/
def intEnvValue (env : FsEnv) (name : String) (default : Option ℤ) : Option ℤ :=
  match env.environ name with
  | some s => if s = "" then default else (env.pyInt s).orElse fun _ => default
  | none => default

/-- **`_int_env` never raises and changes nothing**: it returns the parsed value, or the default
when the variable is unset, empty, or refused by `int()`. -/
theorem intEnv_eq (name : String) (default : Option ℤ) (env : FsEnv) (s : σ) :
    intEnv name default env s = .ok (intEnvValue env name default) s := by
  simp only [intEnv, PyM.bind_of_ok (PyM.read_apply env s), intEnvValue]
  cases env.environ name with
  | none => rfl
  | some v =>
    dsimp only
    split_ifs
    · rfl
    · cases hp : env.pyInt v with
      | some n => rw [PyM.tryCatch_of_ok (PyM.map_of_ok (parseInt_of_some hp s))]; rfl
      | none => rw [PyM.tryCatch_of_caught (PyM.map_of_raised (parseInt_of_none hp s)) rfl]; rfl

end IntEnv

end HolonConfig

/-! ## What the adapter reads as `HolonConfig` does -/

/-- With no default, `_int_env` is the `int(s) if s else None` of `PermissionFixer`, where that
does not raise. -/
theorem intEnvValue_none (env : FsEnv) (name : String) :
    HolonConfig.intEnvValue env name none = envIdValue env name := by
  unfold HolonConfig.intEnvValue envIdValue
  cases env.environ name with
  | none => rfl
  | some v =>
    dsimp only
    split_ifs
    · rfl
    · cases env.pyInt v <;> rfl

/-- **At its default root, `HolonConfig` names the paths `run_adapter` hard-codes**: with no
argument and `HOLON_ROOT` unset, the workspace, the three inputs, the output and evidence
directories, and the four output files. -/
theorem holonConfig_default_paths (environ : String → Option String)
    (h : environ "HOLON_ROOT" = none) :
    (HolonConfig.init environ none).workspaceDir.str = workspacePath ∧
    (HolonConfig.init environ none).specPath.str = specPath ∧
    (HolonConfig.init environ none).systemPromptPath.str = promptPath ∧
    (HolonConfig.init environ none).userPromptPath.str = userPromptPath ∧
    (HolonConfig.init environ none).outputDir.str = outputDir ∧
    (HolonConfig.init environ none).evidenceDir.str = evidenceDir ∧
    (HolonConfig.init environ none).executionLogPath.str = OutFile.executionLog.path ∧
    (HolonConfig.init environ none).manifestPath.str = OutFile.manifest.path ∧
    (HolonConfig.init environ none).diffPath.str = OutFile.diffPatch.path ∧
    (HolonConfig.init environ none).summaryPath.str = OutFile.summary.path := by
  have hc : HolonConfig.init environ none = ⟨"/holon"⟩ := by simp [HolonConfig.init, h]
  rw [hc]
  decide

/-- **`fix_permissions` reads the host identity as `HolonConfig` does**: it re-owns the walk
exactly when `_int_env` gives an id for both `HOST_UID` and `HOST_GID`, and with those ids;
where `int()` refuses a value it leaves every owner as it was. -/
theorem fixPermissions_eq_config (directory : Entry) (env : FsEnv) (o : Owners) :
    fixPermissions directory env o = .ok ()
      (match HolonConfig.intEnvValue env "HOST_UID" none, HolonConfig.intEnvValue env "HOST_GID" none with
        | some uid, some gid => walkOwners env.denied (chownCalls directory) uid gid o
        | _, _ => o) := by
  rw [fixPermissions_eq, fixedOwners, hostIds_eq, intEnvValue_none, intEnvValue_none]
  cases envIdValue env "HOST_UID" <;> cases envIdValue env "HOST_GID" <;> rfl

/-- `os.environ.get(a) or os.environ.get(b)` tested by `if`: the first non-empty of the two. -/
theorem firstNonEmpty_eq_pyOr (a b : Option String) :
    firstNonEmpty a b = (HolonConfig.pyOr a b).filter (· != "") := by
  rcases a with _ | a
  · simp [firstNonEmpty, HolonConfig.pyOr]
  · by_cases ha : a = "" <;> simp [firstNonEmpty, HolonConfig.pyOr, Option.filter_some, ha]

/-- **The settings sync and `HolonConfig` read the same token and base URL**: the sync's
`if auth_token:` holds exactly for a non-empty `get_env_auth_token()`, and `get_env_base_url()` is
the sync's `base_url`, or the default when the sync writes none. -/
theorem authToken_eq_config (h : Host) :
    authToken h = (HolonConfig.getEnvAuthToken h.environ).filter (· != "") ∧
      HolonConfig.getEnvBaseUrl h.environ = (baseUrl h).getD "https://api.anthropic.com" := by
  refine ⟨firstNonEmpty_eq_pyOr _ _, ?_⟩
  rw [baseUrl, firstNonEmpty_eq_pyOr, HolonConfig.getEnvBaseUrl]
  rcases HolonConfig.pyOr (h.environ "ANTHROPIC_BASE_URL") (h.environ "ANTHROPIC_API_URL")
    with _ | u
  · rfl
  · by_cases hu : u = "" <;> simp [HolonConfig.pyOrElse, Option.filter_some, hu]

end HolonAdapter
