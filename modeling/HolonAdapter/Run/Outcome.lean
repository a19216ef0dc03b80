import HolonAdapter.Run.Events

/-!
# Run/Outcome — what a run leaves in the output directory

The statement-level specs of `Run/Adapter` put together, over whole runs:

* `tryStatement_boundary` — the failure boundary: from any world the `try` is entered in, a body
  that raises nothing leaves the success manifest, a body that raises an `Exception` leaves the
  failure manifest, and a body that raises anything else leaves what it left: no call of
  `fix_permissions`, and `manifest.json` as the `try` found it or holding the success manifest;
* `runAdapter_outcome` — on a run that raises nothing, the manifest's outcome is the stream's
  verdict, `"success"` also when the stream ends with no `ResultMessage`.

Then the runs where text mode and unchecked git commands change what is written: a patch or a
summary holding a carriage return is written without it, one that is not UTF-8 turns a successful
run into a failed one, and a workspace whose `.git` is gone gives a successful run an empty patch.
-/

namespace HolonAdapter

section Success

variable {goal : Json} {env : Env} {w w' : World}

/-- **A body that raises nothing** leaves the success manifest, and writes the log, the manifest,
the patch and the summary, in that order, before it calls `fix_permissions`. -/
theorem manifest_of_tryBody_ok (h : tryBody goal env w = .ok () w') :
    w'.files .manifest = some (encodeUtf8 (env.host.jsonDumps
      (successManifest (streamSuccess env.messages) (env.endTime - env.startTime)))) ∧
    w'.events = w.events ++ [.write .executionLog, .write .manifest, .write .diffPatch,
      .write .summary, .fixPermissions] := by
  obtain ⟨-, -, hg⟩ := tryBody_eq_ok.mp h
  obtain ⟨-, -, -, -, -, p, s, -, -, rfl⟩ := generateArtifacts_eq_ok.mp hg
  simp

end Success

/-- **The manifest's outcome.**  A run that raises nothing ends with `manifest.json` holding a
completed manifest whose outcome is `"success"` exactly when the stream holds no `ResultMessage`
or its first one has `is_error = false`. -/
theorem runAdapter_outcome (env : Env) (w w' : World) (h : runAdapter env w = .ok () w') :
    ∃ m, w'.files .manifest = some (encodeUtf8 (env.host.jsonDumps m)) ∧
      m.member "status" = some (.str "completed") ∧
      (m.member "outcome" = some (.str "success") ↔
        ∀ s e, env.messages.find? Message.isResult = some (.resultMessage s e) → e = false) := by
  obtain ⟨goal, w1, -, ht⟩ := PyM.bind_eq_ok.mp h
  refine ⟨_, (manifest_of_tryBody_ok (tryStatement_eq_ok.mp ht)).1, rfl, ?_⟩
  rw [← streamSuccess_iff]
  cases streamSuccess env.messages <;> simp [successManifest, Json.member, dictGet_cons]

/-- A run of the sample environment raises nothing, and its manifest says `"success"`. -/
theorem runAdapter_outcome_sample :
    ∃ w', runAdapter sampleEnv sampleWorld = .ok () w' ∧
      ∃ m, w'.files .manifest = some (encodeUtf8 (sampleEnv.host.jsonDumps m)) ∧
        m.member "status" = some (.str "completed") ∧
        (m.member "outcome" = some (.str "success") ↔
          ∀ s e, sampleEnv.messages.find? Message.isResult = some (.resultMessage s e) → e = false) :=
  ⟨_, rfl, runAdapter_outcome sampleEnv sampleWorld _ rfl⟩

/-- **A stream that ends with no `ResultMessage` is reported a success**: the agent's one
assistant message and nothing else give a manifest with outcome `"success"`. -/
theorem runAdapter_exhausted_stream_succeeds :
    ∃ w', runAdapter { sampleEnv with messages := [.assistantMessage [.textBlock "done"]] }
        sampleWorld = .ok () w' ∧
      w'.files .manifest = some (encodeUtf8 (sampleEnv.host.jsonDumps (successManifest true 0))) ∧
      (successManifest true 0).member "outcome" = some (.str "success") :=
  ⟨_, rfl, rfl, rfl⟩

/-! ## Text mode, and unchecked git commands -/

/-- **The patch goes through text mode**: git's output `a\r\n` is written to `diff.patch` as
`a\n`, and an output that is not UTF-8 fails the run: the failure manifest is written, and no
`diff.patch`. -/
theorem tryStatement_patch_text_mode :
    (∃ w', tryStatement (.str "fix") { sampleEnv with renderPatch := fun _ => [97, 13, 10] }
        sampleWorld = .ok () w' ∧ w'.files .diffPatch = some [97, 10]) ∧
    ∃ w', tryStatement (.str "fix") { sampleEnv with renderPatch := fun _ => [0xFF] }
        sampleWorld = .raised (PyExc.sysExit 1) w' ∧
      w'.files .manifest = some (encodeUtf8 (sampleEnv.host.jsonDumps
        (failureManifest unicodeDecodeError.text))) ∧
      w'.files .diffPatch = none :=
  ⟨⟨_, rfl, rfl⟩, _, rfl, rfl, rfl⟩

/-- **Failed git commands are reported a success**: after the agent deletes `.git`, both
`git add -A` and `git diff --cached` exit with 128, and the run still writes a success manifest
and an empty `diff.patch`. -/
theorem tryStatement_ignores_git_status :
    (gitAddAll sampleEnv.ignored (agentEffect { sampleEnv with agentActions := [.removeGitDir] }
        sampleWorld).repo).1 = 128 ∧
    (gitDiffCached (agentEffect { sampleEnv with agentActions := [.removeGitDir] }
        sampleWorld).repo).1 = 128 ∧
    ∃ w', tryStatement (.str "fix") { sampleEnv with agentActions := [.removeGitDir] }
        sampleWorld = .ok () w' ∧
      w'.files .manifest = some (encodeUtf8 (sampleEnv.host.jsonDumps (successManifest true 0))) ∧
      w'.files .diffPatch = some [] :=
  ⟨rfl, rfl, _, rfl, rfl, rfl⟩

/-- **The agent's summary goes through text mode**: a `summary.md` holding `h\r\n` is left holding
`h\n`, and one that is not UTF-8 turns the run's success into a failure manifest. -/
theorem tryStatement_summary_text_mode :
    (∃ w', tryStatement (.str "fix") { sampleEnv with agentSummary := some [104, 13, 10] }
        sampleWorld = .ok () w' ∧ w'.files .summary = some [104, 10]) ∧
    ∃ w', tryStatement (.str "fix") { sampleEnv with agentSummary := some [0xFF] }
        sampleWorld = .raised (PyExc.sysExit 1) w' ∧
      w'.files .manifest = some (encodeUtf8 (sampleEnv.host.jsonDumps
        (failureManifest unicodeDecodeError.text))) :=
  ⟨⟨_, rfl, rfl⟩, _, rfl, rfl⟩

/-! ## Text mode, in general -/

theorem sessionClear_of_faults_none {env : Env} (h : ∀ s, env.fault s = none) : SessionClear env :=
  ⟨h _, h _, loopClear_of_forall fun _ _ => ⟨h _, h _⟩, h _⟩

/-- **What reaches `diff.patch`.**  On a run whose `try` body returns, `diff.patch` holds what
`git diff --cached` printed byte for byte exactly when that holds no carriage return.  In a run
where nothing else raises, an output that is not UTF-8 ends the body with `UnicodeDecodeError`. -/
theorem tryBody_diffPatch (goal : Json) (env : Env) (w : World) :
    (∀ w', tryBody goal env w = .ok () w' →
      (w'.files .diffPatch = some (diffStdout env (stageWorkspace env (sessionWorld env w)).repo) ↔
        (13 : UInt8) ∉ diffStdout env (stageWorkspace env (sessionWorld env w)).repo)) ∧
    ((∀ s, env.fault s = none) →
      decodeUtf8 (diffStdout env (stageWorkspace env (sessionWorld env w)).repo) = none →
      tryBody goal env w = .raised unicodeDecodeError (stageWorkspace env (sessionWorld env w))) := by
  refine ⟨fun w' h => ?_, fun hf hd => ?_⟩
  · obtain ⟨-, -, hg⟩ := tryBody_eq_ok.mp h
    obtain ⟨-, -, -, -, -, p, s, hp, -, rfl⟩ := generateArtifacts_eq_ok.mp hg
    obtain ⟨t, ht, rfl⟩ := Option.map_eq_some'.mp hp
    simpa using encodeUtf8_eq_self_of_readText ht
  · rw [tryBody_of_clear (hf _) (sessionClear_of_faults_none hf), generateArtifacts,
      PyM.bind_of_ok (PyM.read_apply _ _)]
    exact PyM.bind_of_raised (stageAndDiff_of_undecodable (hf _) (hf _) (readText_eq_none_iff.mpr hd))

/-- The patch law at git outputs `a\r\n` and `0xFF`. -/
theorem tryBody_diffPatch_sample :
    (∃ w', tryBody (.str "fix") { sampleEnv with renderPatch := fun _ => [97, 13, 10] } sampleWorld =
        .ok () w' ∧ w'.files .diffPatch ≠ some [97, 13, 10]) ∧
      tryBody (.str "fix") { sampleEnv with renderPatch := fun _ => [0xFF] } sampleWorld =
        .raised unicodeDecodeError
          (stageWorkspace { sampleEnv with renderPatch := fun _ => [0xFF] }
            (sessionWorld { sampleEnv with renderPatch := fun _ => [0xFF] } sampleWorld)) :=
  ⟨⟨_, rfl, fun h => absurd (((tryBody_diffPatch (.str "fix")
      { sampleEnv with renderPatch := fun _ => [97, 13, 10] } sampleWorld).1 _ rfl).mp h) (by decide)⟩,
    (tryBody_diffPatch (.str "fix") { sampleEnv with renderPatch := fun _ => [0xFF] } sampleWorld).2
      (fun _ => rfl) rfl⟩

/-- **What reaches `summary.md`.**  When the session leaves a `summary.md` holding `c`, a run whose
`try` body returns leaves it holding `c` exactly when `c` holds no carriage return.  In a run where
nothing else raises and the patch decodes, a `c` that is not UTF-8 ends the body with
`UnicodeDecodeError`, the success manifest already written. -/
theorem tryBody_summary (goal : Json) (env : Env) (w : World) (c : Bytes)
    (hc : (sessionWorld env w).files .summary = some c) :
    (∀ w', tryBody goal env w = .ok () w' → (w'.files .summary = some c ↔ (13 : UInt8) ∉ c)) ∧
    ((∀ s, env.fault s = none) → patchText env (sessionWorld env w).repo ≠ none →
      decodeUtf8 c = none →
      ∃ w', tryBody goal env w = .raised unicodeDecodeError w' ∧
        w'.files .manifest = some (encodeUtf8 (env.host.jsonDumps
          (successManifest (streamSuccess env.messages) (env.endTime - env.startTime))))) := by
  refine ⟨fun w' h => ?_, fun hf hp hd => ?_⟩
  · obtain ⟨-, -, hg⟩ := tryBody_eq_ok.mp h
    obtain ⟨-, -, -, -, -, p, s, -, hs, rfl⟩ := generateArtifacts_eq_ok.mp hg
    rw [hc, resolvedSummary] at hs
    split_ifs at hs
    obtain ⟨t, ht, rfl⟩ := Option.map_eq_some'.mp hs
    simpa using encodeUtf8_eq_self_of_readText ht
  · obtain ⟨p, hp⟩ := Option.ne_none_iff_exists'.mp hp
    have hr : generateArtifacts goal (sessionResult env) (streamSuccess env.messages) env
        (sessionWorld env w) = .raised unicodeDecodeError _ :=
      generateArtifacts_of_undecodable_summary (hf _) (hf _) hp (hf _) (hf _) (hf _) hc
        (readText_eq_none_iff.mpr hd)
    rw [← tryBody_of_clear (hf _) (sessionClear_of_faults_none hf)] at hr
    exact ⟨_, hr, by simp⟩

/-- The summary law at an agent's `summary.md` holding `h\r\n`, and `0xFF`. -/
theorem tryBody_summary_sample :
    (sessionWorld { sampleEnv with agentSummary := some [104, 13, 10] } sampleWorld).files .summary =
        some [104, 13, 10] ∧
      (∃ w', tryBody (.str "fix") { sampleEnv with agentSummary := some [104, 13, 10] } sampleWorld =
        .ok () w' ∧ w'.files .summary ≠ some [104, 13, 10]) ∧
      (sessionWorld { sampleEnv with agentSummary := some [0xFF] } sampleWorld).files .summary =
        some [0xFF] ∧
      ∃ w', tryBody (.str "fix") { sampleEnv with agentSummary := some [0xFF] } sampleWorld =
        .raised unicodeDecodeError w' ∧
        w'.files .manifest = some (encodeUtf8 (sampleEnv.host.jsonDumps (successManifest true 0))) :=
  ⟨rfl, ⟨_, rfl, fun h => absurd (((tryBody_summary (.str "fix")
      { sampleEnv with agentSummary := some [104, 13, 10] } sampleWorld _ rfl).1 _ rfl).mp h)
      (by decide)⟩, rfl,
    (tryBody_summary (.str "fix") { sampleEnv with agentSummary := some [0xFF] } sampleWorld _ rfl).2
      (fun _ => rfl) (by decide) rfl⟩

end HolonAdapter
