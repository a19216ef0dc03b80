import HolonAdapter.Python.Json
import HolonAdapter.Python.Text

/-!
# Settings — syncing the environment into `~/.claude/settings.json` (`run_adapter`, 115–141)

When the settings file exists, the adapter loads it, writes the API token, the API base URL and
`IS_SANDBOX` into its `env` member, and dumps it back; any exception on the way is caught and
printed.  Every step that can raise — the decode, the parse, `.get` on a non-dict, item assignment
on a non-dict `env` — comes before `open(path, 'w')`, so a failed sync leaves the file as it was.

`syncSettings_spec` — the sync always returns; on an object whose `env` is absent or an object it
rewrites exactly the listed `env` keys and keeps every other member, and on any other content it
leaves the bytes untouched.
-/

namespace HolonAdapter

/-- What the process reads besides its files: `os.environ`, and the `json` module's parser and
printer. -/
structure Host where
  environ : String → Option String
  json : JsonLib

/-- The text `json.dump(v, f, indent=2)` writes. -/
def Host.jsonDumps (h : Host) (v : Json) : List Char := h.json.dumps v 2

/-- The value `json.load` returns for decoded text, when it raises nothing. -/
def Host.jsonLoads (h : Host) (text : List Char) : Option Json :=
  match h.json.loads text with
  | .ok v => some v
  | .error _ => none

/-- `os.environ.get(a) or os.environ.get(b)`, as the `if` after it tests it: the first of the two
values that is set and non-empty. -/
def firstNonEmpty (a b : Option String) : Option String :=
  (a.filter (· != "")).orElse fun _ => b.filter (· != "")

/-- The keys the token is written to (lines 127–128). -/
def tokenKeys : List String := ["ANTHROPIC_AUTH_TOKEN", "ANTHROPIC_API_KEY"]

/-- The keys the base URL is written to (lines 130–132). -/
def urlKeys : List String := ["ANTHROPIC_BASE_URL", "ANTHROPIC_API_URL", "CLAUDE_CODE_API_URL"]

/-- A key is `IS_SANDBOX`, a token key, a URL key, or none of them — and only one of these. -/
theorem envKey_cases (k : String) :
    k = "IS_SANDBOX" ∨ (k ∈ tokenKeys ∧ k ∉ urlKeys ∧ k ≠ "IS_SANDBOX") ∨
      (k ∈ urlKeys ∧ k ∉ tokenKeys ∧ k ≠ "IS_SANDBOX") ∨
      (k ∉ tokenKeys ∧ k ∉ urlKeys ∧ k ≠ "IS_SANDBOX") := by
  by_cases hs : k = "IS_SANDBOX"
  · exact .inl hs
  by_cases ht : k ∈ tokenKeys
  · refine .inr (.inl ⟨ht, ?_, hs⟩)
    simp only [tokenKeys, urlKeys, List.mem_cons, List.mem_singleton, List.not_mem_nil] at ht ⊢
    rcases ht with rfl | rfl | h <;> simp_all
  by_cases hu : k ∈ urlKeys
  · exact .inr (.inr (.inl ⟨hu, ht, hs⟩))
  · exact .inr (.inr (.inr ⟨ht, hu, hs⟩))

/-- `auth_token` (line 123). -/
def authToken (h : Host) : Option String :=
  firstNonEmpty (h.environ "ANTHROPIC_AUTH_TOKEN") (h.environ "ANTHROPIC_API_KEY")

/-- `base_url` (line 124). -/
def baseUrl (h : Host) : Option String :=
  firstNonEmpty (h.environ "ANTHROPIC_BASE_URL") (h.environ "ANTHROPIC_API_URL")

/-! ## The sync, statement by statement

The state is the settings file's content, `none` when it does not exist. -/

/-- `with open(path, 'r') as f: json.load(f)`. -/
def loadJson : PyM Host (Option Bytes) Json := fun h c =>
  match c with
  | none => .raised ⟨.exception "FileNotFoundError", "No such file or directory"⟩ c
  | some b =>
    match readText b with
    | none => .raised unicodeDecodeError c
    | some text =>
      match h.json.loads text with
      | .error e => .raised e c
      | .ok v => .ok v c

/-- `with open(path, 'w') as f: json.dump(v, f, indent=2)`. -/
def dumpJson (v : Json) : PyM Host (Option Bytes) Unit := fun h _ =>
  .ok () (some (encodeUtf8 (h.jsonDumps v)))

/-- Lines 126–128: `if auth_token:` both token keys. -/
def setToken (envSection : Json) : PyM Host (Option Bytes) Json := do
  match authToken (← PyM.read) with
  | some t =>
    let e ← setItem envSection "ANTHROPIC_AUTH_TOKEN" (.str t)
    setItem e "ANTHROPIC_API_KEY" (.str t)
  | none => pure envSection

/-- Lines 129–132: `if base_url:` the three URL keys. -/
def setBaseUrl (envSection : Json) : PyM Host (Option Bytes) Json := do
  match baseUrl (← PyM.read) with
  | some u =>
    let e ← setItem envSection "ANTHROPIC_BASE_URL" (.str u)
    let e ← setItem e "ANTHROPIC_API_URL" (.str u)
    setItem e "CLAUDE_CODE_API_URL" (.str u)
  | none => pure envSection

/-- Lines 119–135: the settings as they will be dumped. -/
def syncedSettings : PyM Host (Option Bytes) Json := do
  let settings ← loadJson
  let envSection ← getAttr settings "env" (.obj [])
  let envSection ← setToken envSection
  let envSection ← setBaseUrl envSection
  let envSection ← setItem envSection "IS_SANDBOX" (.str "1")
  setItem settings "env" envSection

/-- Lines 119–139, the body of the `try`. -/
def syncBody : PyM Host (Option Bytes) Unit := do
  dumpJson (← syncedSettings)

/-- **Lines 116–141**: when the file exists, the body under `except Exception`, which prints a
warning and carries on. -/
def syncSettings : PyM Host (Option Bytes) Unit := do
  if (← PyM.get).isSome then
    PyM.tryExcept syncBody fun _ => pure ()

/-! ## Every step before the dump is quiet

Up to `json.dump`, each statement either returns with the file untouched or raises an
`Exception` — also with the file untouched. -/

/-- The statement changes no state, and raises only `Exception`s. -/
def Quiet {α : Type} (x : PyM Host (Option Bytes) α) : Prop :=
  ∀ h c, (∃ a, x h c = .ok a c) ∨ ∃ e, x h c = .raised e c ∧ e.isException = true

theorem quiet_pure {α : Type} (a : α) : Quiet (pure a) := fun _ _ => .inl ⟨a, rfl⟩

theorem quiet_bind {α β : Type} {x : PyM Host (Option Bytes) α}
    {f : α → PyM Host (Option Bytes) β} (hx : Quiet x) (hf : ∀ a, Quiet (f a)) :
    Quiet (x >>= f) := fun h c => by
  rcases hx h c with ⟨a, ha⟩ | ⟨e, he, hexc⟩
  · rw [PyM.bind_of_ok ha]; exact hf a h c
  · exact .inr ⟨e, PyM.bind_of_raised he, hexc⟩

theorem quiet_read : Quiet (PyM.read : PyM Host (Option Bytes) Host) := fun h _ => .inl ⟨h, rfl⟩

theorem quiet_loadJson : Quiet loadJson := fun h c => by
  unfold loadJson
  split
  · exact .inr ⟨_, rfl, rfl⟩
  · split
    · exact .inr ⟨_, rfl, rfl⟩
    · split
      · exact .inr ⟨_, rfl, JsonLib.isException_of_loads ‹_›⟩
      · exact .inl ⟨_, rfl⟩

theorem quiet_getAttr (v : Json) (k : String) (d : Json) : Quiet (getAttr v k d) := fun _ _ => by
  cases v <;> first | exact .inl ⟨_, rfl⟩ | exact .inr ⟨_, rfl, rfl⟩

theorem quiet_setItem (v : Json) (k : String) (x : Json) : Quiet (setItem v k x) := fun _ _ => by
  cases v <;> first | exact .inl ⟨_, rfl⟩ | exact .inr ⟨_, rfl, rfl⟩

theorem quiet_setToken (v : Json) : Quiet (setToken v) :=
  quiet_bind quiet_read fun h => by
    cases authToken h with
    | some t => exact quiet_bind (quiet_setItem _ _ _) fun _ => quiet_setItem _ _ _
    | none => exact quiet_pure v

theorem quiet_setBaseUrl (v : Json) : Quiet (setBaseUrl v) :=
  quiet_bind quiet_read fun h => by
    cases baseUrl h with
    | some u => exact quiet_bind (quiet_setItem _ _ _) fun _ =>
        quiet_bind (quiet_setItem _ _ _) fun _ => quiet_setItem _ _ _
    | none => exact quiet_pure v

theorem quiet_syncedSettings : Quiet syncedSettings :=
  quiet_bind quiet_loadJson fun _ => quiet_bind (quiet_getAttr _ _ _) fun _ =>
    quiet_bind (quiet_setToken _) fun _ => quiet_bind (quiet_setBaseUrl _) fun _ =>
      quiet_bind (quiet_setItem _ _ _) fun _ => quiet_setItem _ _ _

/-! ## What the sync writes -/

/-- The settings document's members and its `env` members, when the file decodes to a JSON object
whose `env` is absent or an object. -/
def settingsShape (h : Host) (b : Bytes) : Option (List (String × Json) × List (String × Json)) :=
  match (readText b).bind h.jsonLoads with
  | some (.obj kvs) =>
    match dictGet kvs "env" with
    | none => some (kvs, [])
    | some (.obj env) => some (kvs, env)
    | some _ => none
  | _ => none

/-- `env[k]` after the sync: each token key and each URL key holds the first non-empty value of its
two variables when there is one, `IS_SANDBOX` holds `"1"`, and every other member is kept. -/
def syncedEnvEntry (h : Host) (env : List (String × Json)) (k : String) : Option Json :=
  if k = "IS_SANDBOX" then some (.str "1")
  else if k ∈ tokenKeys then ((authToken h).map .str).orElse fun _ => dictGet env k
  else if k ∈ urlKeys then ((baseUrl h).map .str).orElse fun _ => dictGet env k
  else dictGet env k

/-- `json.load` returns exactly what the file decodes and parses to, and writes nothing. -/
theorem loadJson_eq_ok_iff {h : Host} {b : Bytes} {v : Json} {c : Option Bytes} :
    loadJson h (some b) = .ok v c ↔ (readText b).bind h.jsonLoads = some v ∧ c = some b := by
  cases ht : readText b with
  | none => simp [loadJson, ht]
  | some text =>
    cases hj : h.json.loads text with
    | error e => simp [loadJson, Host.jsonLoads, ht, hj]
    | ok v' => simp [loadJson, Host.jsonLoads, ht, hj, eq_comm]

theorem setToken_obj (h : Host) (c : Option Bytes) (env : List (String × Json)) :
    ∃ env', setToken (.obj env) h c = .ok (.obj env') c ∧ ∀ k, dictGet env' k =
      if k ∈ tokenKeys then ((authToken h).map .str).orElse fun _ => dictGet env k
      else dictGet env k := by
  cases ht : authToken h with
  | none => exact ⟨env, by simp [setToken, PyM.bind_apply, ht], fun k => by split_ifs <;> rfl⟩
  | some t =>
    refine ⟨dictSet (dictSet env "ANTHROPIC_AUTH_TOKEN" (.str t)) "ANTHROPIC_API_KEY" (.str t),
      by simp [setToken, PyM.bind_apply, ht], fun k => ?_⟩
    by_cases hk : k ∈ tokenKeys
    · simp only [tokenKeys, List.mem_cons, List.mem_singleton, List.not_mem_nil, or_false] at hk
      rcases hk with rfl | rfl <;> simp [tokenKeys]
    · simp only [tokenKeys, List.mem_cons, List.mem_singleton, List.not_mem_nil, or_false,
        not_or] at hk
      simp [tokenKeys, hk]

theorem setBaseUrl_obj (h : Host) (c : Option Bytes) (env : List (String × Json)) :
    ∃ env', setBaseUrl (.obj env) h c = .ok (.obj env') c ∧ ∀ k, dictGet env' k =
      if k ∈ urlKeys then ((baseUrl h).map .str).orElse fun _ => dictGet env k
      else dictGet env k := by
  cases hu : baseUrl h with
  | none => exact ⟨env, by simp [setBaseUrl, PyM.bind_apply, hu], fun k => by split_ifs <;> rfl⟩
  | some u =>
    refine ⟨dictSet (dictSet (dictSet env "ANTHROPIC_BASE_URL" (.str u)) "ANTHROPIC_API_URL"
      (.str u)) "CLAUDE_CODE_API_URL" (.str u), by simp [setBaseUrl, PyM.bind_apply, hu], fun k => ?_⟩
    by_cases hk : k ∈ urlKeys
    · simp only [urlKeys, List.mem_cons, List.mem_singleton, List.not_mem_nil, or_false] at hk
      rcases hk with rfl | rfl | rfl <;> simp [urlKeys]
    · simp only [urlKeys, List.mem_cons, List.mem_singleton, List.not_mem_nil, or_false,
        not_or] at hk
      simp [urlKeys, hk]

/-- Setting the token returns a dict only when given one: it updates a dict, or returns its
argument unchanged. -/
theorem setToken_eq_ok {h : Host} {c c' : Option Bytes} {v y : Json}
    (hv : setToken v h c = .ok y c') (hy : ∃ m, y = .obj m) : ∃ m, v = .obj m := by
  cases ht : authToken h with
  | none =>
    simp only [setToken, PyM.bind_apply, PyM.read_apply, ht, PyM.pure_apply, Res.ok.injEq] at hv
    exact hv.1 ▸ hy
  | some t =>
    rw [setToken, PyM.bind_of_ok (PyM.read_apply h c)] at hv
    simp only [ht] at hv
    obtain ⟨m, rfl, -, -⟩ := setItem_eq_ok (PyM.bind_eq_ok.mp hv).choose_spec.choose_spec.1
    exact ⟨m, rfl⟩

theorem setBaseUrl_eq_ok {h : Host} {c c' : Option Bytes} {v y : Json}
    (hv : setBaseUrl v h c = .ok y c') (hy : ∃ m, y = .obj m) : ∃ m, v = .obj m := by
  cases hu : baseUrl h with
  | none =>
    simp only [setBaseUrl, PyM.bind_apply, PyM.read_apply, hu, PyM.pure_apply, Res.ok.injEq] at hv
    exact hv.1 ▸ hy
  | some u =>
    rw [setBaseUrl, PyM.bind_of_ok (PyM.read_apply h c)] at hv
    simp only [hu] at hv
    obtain ⟨m, rfl, -, -⟩ := setItem_eq_ok (PyM.bind_eq_ok.mp hv).choose_spec.choose_spec.1
    exact ⟨m, rfl⟩

/-- **The sync returns settings only from an object whose `env` is absent or an object.** -/
theorem settingsShape_of_syncedSettings {h : Host} {b : Bytes} {v : Json} {c : Option Bytes}
    (hs : syncedSettings h (some b) = .ok v c) : settingsShape h b ≠ none := by
  simp only [syncedSettings, PyM.bind_eq_ok] at hs
  obtain ⟨settings, c1, h1, e0, c2, h2, e1, c3, h3, e2, c4, h4, e3, c5, h5, -⟩ := hs
  obtain ⟨m, hm, -⟩ := setItem_eq_ok h5
  cases settings with
  | obj kvs =>
    rw [getAttr_obj] at h2
    cases h2
    obtain ⟨m', hm'⟩ := setToken_eq_ok h3 (setBaseUrl_eq_ok h4 ⟨m, hm⟩)
    simp only [settingsShape, (loadJson_eq_ok_iff.mp h1).1]
    cases hg : dictGet kvs "env" with
    | none => simp
    | some g => rw [hg] at hm'; cases hm'; simp
  | _ => cases h2

theorem settingsShape_eq_some {h : Host} {b : Bytes} {kvs env : List (String × Json)}
    (hs : settingsShape h b = some (kvs, env)) :
    (readText b).bind h.jsonLoads = some (.obj kvs) ∧ (dictGet kvs "env").getD (.obj []) = .obj env := by
  unfold settingsShape at hs
  split at hs
  · rename_i kvs' hl
    split at hs <;> cases hs <;> simp_all
  · cases hs

/-- On an object whose `env` is absent or an object, the settings to dump: `env` replaced by its
update. -/
theorem syncedSettings_of_shape {h : Host} {b : Bytes} {kvs env : List (String × Json)}
    (hs : settingsShape h b = some (kvs, env)) : ∃ env',
      syncedSettings h (some b) = .ok (.obj (dictSet kvs "env" (.obj env'))) (some b) ∧
      ∀ k, dictGet env' k = syncedEnvEntry h env k := by
  obtain ⟨hl, he⟩ := settingsShape_eq_some hs
  obtain ⟨env1, h1, hk1⟩ := setToken_obj h (some b) env
  obtain ⟨env2, h2, hk2⟩ := setBaseUrl_obj h (some b) env1
  refine ⟨dictSet env2 "IS_SANDBOX" (.str "1"), ?_, fun k => ?_⟩
  · simp only [syncedSettings, PyM.bind_apply, loadJson_eq_ok_iff.mpr ⟨hl, rfl⟩, getAttr_obj, he,
      h1, h2, setItem_obj]
  · rw [dictGet_dictSet, hk2, hk1]
    rcases envKey_cases k with rfl | ⟨hT, hU, hS⟩ | ⟨hU, hT, hS⟩ | ⟨hT, hU, hS⟩ <;>
      simp [syncedEnvEntry, *]

theorem syncSettings_some (h : Host) (b : Bytes) :
    syncSettings h (some b) = PyM.tryExcept syncBody (fun _ => pure ()) h (some b) := by
  simp [syncSettings, PyM.bind_apply]

/-! ## A number that does not survive the sync -/

/-- The settings text `{"x": 1e400}`. -/
def overflowText : List Char := "\x7b\"x\": 1e400\x7d".data

/-- The document it writes: one member, `1e400`. -/
def overflowDoc : JsonDoc := .obj [("x", .num (.dec false 1 400))]

/-- A parser that reads `overflowText` as `overflowDoc`, and nothing else. -/
def overflowParse (text : List Char) : Option JsonDoc :=
  if text = overflowText then some overflowDoc else none

theorem ofDecimal_one_e400 : Float64.ofDecimal false 1 400 = .inf false := by
  rw [Float64.ofDecimal, if_pos (by decide)]
  exact Float64.ofRat_of_overflow (by norm_num [Int.toNat]) (by norm_num)

/-- `1e400` comes back as `Infinity`, whatever the printer: with no variable set, the sync of a
settings file holding `{"x": 1e400}` writes the `json.dump` of a dict whose `x` is `inf`, so the
member it writes is `Infinity` where the file held `1e400`. -/
theorem syncSettings_overflow (print : JsonDoc → ℕ → List Char) :
    syncSettings ⟨fun _ => none, ⟨overflowParse, print⟩⟩ (some (encodeUtf8 overflowText)) =
      .ok () (some (encodeUtf8 (print (Json.obj [("x", .float (.inf false)),
        ("env", .obj [("IS_SANDBOX", .str "1")])]).toDoc 2))) ∧
    (Json.obj [("x", .float (.inf false)), ("env", .obj [("IS_SANDBOX", .str "1")])]).toDoc.member "x" =
      some (.num (.infinity false)) := by
  have hload : loadJson ⟨fun _ => none, ⟨overflowParse, print⟩⟩ (some (encodeUtf8 overflowText)) =
      .ok (.obj [("x", .float (.inf false))]) (some (encodeUtf8 overflowText)) := by
    refine loadJson_eq_ok_iff.mpr ⟨?_, rfl⟩
    rw [readText_encodeUtf8, translateNewlines_of_cr_not_mem (by decide)]
    simp only [Option.bind, Host.jsonLoads, JsonLib.loads, overflowParse, if_pos, overflowDoc,
      JsonDoc.load, JsonDoc.loadObj, JsonNumber.load, ofDecimal_one_e400]
    rfl
  have hsynced : syncedSettings ⟨fun _ => none, ⟨overflowParse, print⟩⟩ (some (encodeUtf8 overflowText)) =
      .ok (.obj [("x", .float (.inf false)), ("env", .obj [("IS_SANDBOX", .str "1")])])
        (some (encodeUtf8 overflowText)) := by
    rw [syncedSettings, PyM.bind_of_ok hload]
    rfl
  exact ⟨by rw [syncSettings_some, syncBody, PyM.tryExcept_of_ok (PyM.bind_of_ok hsynced)]; rfl, rfl⟩

/-- How the example prints a number: `Infinity`, `NaN`, an integer, or `m e t` for `m · 10^t`. -/
def JsonNumber.oneline : JsonNumber → List Char
  | .int n => (toString n).data
  | .dec neg m e => (if neg then "-" else "").data ++ (toString m).data ++ "e".data ++ (toString e).data
  | .nan => "NaN".data
  | .infinity neg => (if neg then "-Infinity" else "Infinity").data

mutual

/-- A printer for the example: the document on one line, items after `, ` and values after `: `,
a string's characters as they are (`json.dump` escapes some, and indents). -/
def JsonDoc.oneline : JsonDoc → List Char
  | .null => "null".data
  | .bool b => (if b then "true" else "false").data
  | .num n => n.oneline
  | .str s => "\"".data ++ s.data ++ "\"".data
  | .arr xs => "[".data ++ (JsonDoc.onelineList xs).drop 2 ++ "]".data
  | .obj kvs => "\x7b".data ++ (JsonDoc.onelineObj kvs).drop 2 ++ "\x7d".data

/-- The items of a list, each after `, `. -/
def JsonDoc.onelineList : List JsonDoc → List Char
  | [] => []
  | x :: xs => ", ".data ++ x.oneline ++ JsonDoc.onelineList xs

/-- The members of an object, each after `, `. -/
def JsonDoc.onelineObj : List (String × JsonDoc) → List Char
  | [] => []
  | (k, v) :: kvs => ", \"".data ++ k.data ++ "\": ".data ++ v.oneline ++ JsonDoc.onelineObj kvs

end

end HolonAdapter
