import HolonAdapter.Run.Adapter

/-!
# Run/Events — what a run does to the output directory

Every statement of a run only appends to the output directory's event log, and all of them but
two append writes only: the last statement of the `try` body and the handler's second statement,
each a call of `fix_permissions`.  The body's call is its last statement, so a body that raises
has not made it; the handler makes its call after its one write.  Whatever raises where — an input
missing, git failing, the stream cancelled, a write refused — a run therefore calls
`fix_permissions` at most once, and writes nothing after it.  The statements before the `try`
touch neither the output files nor the log, so a failure there leaves the directory as it was.

* `AppendsNoFix`, `AppendsFixLast`, `OutputKept` — relations between the worlds a statement starts
  and ends in, carried through sequences by `PyM.keeps_bind`;
* `NoFix`, `FixLast`, `FixOnReturn` — what a statement may append;
* `runAdapter_fixPermissions_last` — the whole run, from any world;
* `runAdapter_of_prepare_raised` — a failure before the `try`.
-/

namespace HolonAdapter

/-- The events call `fix_permissions` at most once, and last. -/
def FixAtMostLast (E : List Event) : Prop :=
  Event.fixPermissions ∉ E ∨ ∃ E', E = E' ++ [.fixPermissions] ∧ Event.fixPermissions ∉ E'

theorem FixAtMostLast.append_left {E E2 : List Event} (hn : Event.fixPermissions ∉ E) :
    FixAtMostLast E2 → FixAtMostLast (E ++ E2)
  | .inl hn2 => .inl (by simp [hn, hn2])
  | .inr ⟨E', h, hn'⟩ => .inr ⟨E ++ E', by rw [h, List.append_assoc], by simp [hn, hn']⟩

/-- `w'`'s event log is `w`'s with events appended, none of them a call of `fix_permissions`. -/
def AppendsNoFix (w w' : World) : Prop :=
  ∃ E, w'.events = w.events ++ E ∧ Event.fixPermissions ∉ E

/-- `w'`'s event log is `w`'s with events appended, `fix_permissions` at most once and last. -/
def AppendsFixLast (w w' : World) : Prop :=
  ∃ E, w'.events = w.events ++ E ∧ FixAtMostLast E

section Relations

variable {w1 w2 w3 : World}

theorem appendsNoFix_refl (w : World) : AppendsNoFix w w :=
  ⟨[], (List.append_nil _).symm, List.not_mem_nil _⟩

theorem appendsNoFix_trans : AppendsNoFix w1 w2 → AppendsNoFix w2 w3 → AppendsNoFix w1 w3
  | ⟨E, hE, hn⟩, ⟨E2, hE2, hn2⟩ => ⟨E ++ E2, by rw [hE2, hE, List.append_assoc], by simp [hn, hn2]⟩

theorem AppendsNoFix.appendsFixLast : AppendsNoFix w1 w2 → AppendsFixLast w1 w2
  | ⟨E, hE, hn⟩ => ⟨E, hE, .inl hn⟩

theorem appendsFixLast_of_appendsNoFix :
    AppendsNoFix w1 w2 → AppendsFixLast w2 w3 → AppendsFixLast w1 w3
  | ⟨E, hE, hn⟩, ⟨E2, hE2, hl⟩ => ⟨E ++ E2, by rw [hE2, hE, List.append_assoc], hl.append_left hn⟩

end Relations

/-- The statement appends events to the log, none of them a call of `fix_permissions` — whether
it returns or raises. -/
def NoFix {α : Type} (x : PyM Env World α) : Prop := PyM.Keeps AppendsNoFix x

/-- The statement appends events to the log, `fix_permissions` at most once and last. -/
def FixLast {α : Type} (x : PyM Env World α) : Prop := PyM.Keeps AppendsFixLast x

/-- As `FixLast`, and a statement that calls `fix_permissions` then returns. -/
def FixOnReturn {α : Type} (x : PyM Env World α) : Prop :=
  ∀ env w, ∃ E, (x env w).state.events = w.events ++ E ∧ FixAtMostLast E ∧
    (Event.fixPermissions ∈ E → ∃ a, x env w = .ok a (x env w).state)

section Combinators

variable {α β : Type} {x : PyM Env World α} {f : α → PyM Env World β}

theorem noFix_of_stateless (hx : PyM.Stateless x) : NoFix x := hx.keeps appendsNoFix_refl

theorem noFix_bind (hx : NoFix x) (hf : ∀ a, NoFix (f a)) : NoFix (x >>= f) :=
  PyM.keeps_bind (fun s t u => @appendsNoFix_trans s t u) hx hf

theorem fixLast_bind (hx : NoFix x) (hf : ∀ a, FixLast (f a)) : FixLast (x >>= f) :=
  PyM.keeps_bind_of (fun s t u => @appendsFixLast_of_appendsNoFix s t u)
    (fun s t => @AppendsNoFix.appendsFixLast s t) hx hf

theorem fixOnReturn_bind (hx : NoFix x) (hf : ∀ a, FixOnReturn (f a)) :
    FixOnReturn (x >>= f) := fun env w => by
  obtain ⟨E, hE, hn⟩ := hx env w
  cases h : x env w with
  | ok a w1 =>
    rw [h, Res.state_ok] at hE
    rw [PyM.bind_of_ok h]
    obtain ⟨E2, hE2, hl, hr⟩ := hf a env w1
    exact ⟨E ++ E2, by rw [hE2, hE, List.append_assoc], hl.append_left hn,
      fun hm => hr ((List.mem_append.1 hm).resolve_left hn)⟩
  | raised e w1 =>
    rw [h, Res.state_raised] at hE
    rw [PyM.bind_of_raised h]
    exact ⟨E, hE, .inl hn, fun hm => absurd hm hn⟩

/-- A statement that calls `fix_permissions` only to return has not called it when it raises. -/
theorem FixOnReturn.appendsNoFix_of_raised (hx : FixOnReturn x) {env : Env} {w w' : World}
    {e : PyExc} (h : x env w = .raised e w') : AppendsNoFix w w' := by
  obtain ⟨E, hE, -, hr⟩ := hx env w
  rw [h, Res.state_raised] at hE
  refine ⟨E, hE, fun hm => ?_⟩
  obtain ⟨a, ha⟩ := hr hm
  rw [h] at ha
  cases ha

/-- **The boundary keeps the property**: a body that calls `fix_permissions` only to return, and a
handler that calls it last. -/
theorem fixLast_tryExcept {body : PyM Env World α} {handler : PyExc → PyM Env World α}
    (hb : FixOnReturn body) (hh : ∀ e, FixLast (handler e)) : FixLast (PyM.tryExcept body handler) :=
  fun env w => by
  cases h : body env w with
  | ok a w1 =>
    obtain ⟨E, hE, hl, -⟩ := hb env w
    rw [h] at hE
    exact ⟨E, by rw [PyM.tryExcept_of_ok h]; exact hE, hl⟩
  | raised e w1 =>
    have hn := hb.appendsNoFix_of_raised h
    cases he : e.isException
    · rw [PyM.tryExcept_of_not_isException h he]
      exact hn.appendsFixLast
    · rw [PyM.tryExcept_of_isException h he]
      exact appendsFixLast_of_appendsNoFix hn (hh e env w1)

end Combinators

/-! ## The changes of the session and of staging

Every statement of the body but its writes of `manifest.json`, `diff.patch` and `summary.md` and
its call of `fix_permissions` opens or appends to the log, lets the agent work, stages the
workspace, or changes nothing.  A relation that each of these changes keeps is kept by the whole
session block and by the staging step, whatever they raise; the event log's and `manifest.json`'s
relations are two such. -/

/-- A reflexive, transitive relation between worlds that opening and appending to the log, the
agent's work and `git add -A` keep. -/
structure BodyFrame (R : World → World → Prop) : Prop where
  refl : ∀ w, R w w
  trans : ∀ w1 w2 w3, R w1 w2 → R w2 w3 → R w1 w3
  openLog : ∀ w b, R w (w.write .executionLog b)
  appendLog : ∀ w b, R w (w.appendLog b)
  agentEffect : ∀ env w, R w (agentEffect env w)
  stageWorkspace : ∀ env w, R w (stageWorkspace env w)

section BodyFrame

variable {R : World → World → Prop}

theorem BodyFrame.keeps_mayRaise (hR : BodyFrame R) (s : Site) : PyM.Keeps R (mayRaise s) :=
  (stateless_mayRaise s).keeps hR.refl

theorem BodyFrame.keeps_logWrite (hR : BodyFrame R) (s : Site) (t : String) :
    PyM.Keeps R (logWrite s t) :=
  PyM.keeps_bind hR.trans (hR.keeps_mayRaise s) fun _ => PyM.keeps_modify fun w => hR.appendLog w _

theorem BodyFrame.keeps_receiveLoop (hR : BodyFrame R) (i : ℕ) (ms : List Message) (out : String)
    (success : Bool) : PyM.Keeps R (receiveLoop i ms out success) := by
  -- one message of the loop: its `await` and its log line, then the rest
  have logged : ∀ {i m} {x : PyM Env World (String × Bool)}, PyM.Keeps R x →
      PyM.Keeps R (do mayRaise (.receive i); logWrite (.logMessage i) (messageLine (← PyM.read) m); x) :=
    fun hx => PyM.keeps_bind hR.trans (hR.keeps_mayRaise _) fun _ =>
      PyM.keeps_bind hR.trans (PyM.keeps_read hR.refl) fun _ =>
        PyM.keeps_bind hR.trans (hR.keeps_logWrite _ _) fun _ => hx
  induction ms generalizing i out success with
  | nil => exact PyM.keeps_bind hR.trans (hR.keeps_mayRaise _) fun _ => PyM.keeps_pure hR.refl _
  | cons m ms ih =>
    cases m with
    | assistantMessage content => rw [receiveLoop.eq_2]; exact logged (ih _ _ _)
    | resultMessage s e => rw [receiveLoop.eq_3]; exact logged (PyM.keeps_pure hR.refl _)
    | otherMessage k => rw [receiveLoop.eq_4]; exact logged (ih _ _ _)

/-- **The session block keeps the relation**, whatever it raises. -/
theorem BodyFrame.keeps_sessionBlock (hR : BodyFrame R) : PyM.Keeps R sessionBlock :=
  PyM.keeps_bind hR.trans (PyM.keeps_bind hR.trans (hR.keeps_mayRaise _) fun _ =>
      PyM.keeps_modify fun w => hR.openLog w _) fun _ =>
    PyM.keeps_bind hR.trans (PyM.keeps_bind hR.trans (hR.keeps_mayRaise _) fun _ =>
        PyM.keeps_bind hR.trans (PyM.keeps_read hR.refl) fun _ => PyM.keeps_modify (hR.agentEffect _))
      fun _ =>
    PyM.keeps_bind hR.trans (PyM.keeps_read hR.refl) fun _ =>
      PyM.keeps_bind hR.trans (hR.keeps_receiveLoop _ _ _ _) fun _ =>
        PyM.keeps_bind hR.trans (hR.keeps_logWrite _ _) fun _ => PyM.keeps_pure hR.refl _

/-- **The staging step keeps the relation**, whatever it raises. -/
theorem BodyFrame.keeps_stageAndDiff (hR : BodyFrame R) : PyM.Keeps R stageAndDiff :=
  PyM.keeps_bind hR.trans (PyM.keeps_read hR.refl) fun _ =>
    PyM.keeps_bind hR.trans (hR.keeps_mayRaise _) fun _ =>
      PyM.keeps_bind hR.trans (PyM.keeps_modify (hR.stageWorkspace _)) fun _ =>
        PyM.keeps_bind hR.trans (hR.keeps_mayRaise _) fun _ =>
          PyM.keeps_bind hR.trans (PyM.stateless_get.keeps hR.refl) fun _ =>
            PyM.keeps_bind hR.trans ((stateless_readFile _).keeps hR.refl) fun _ =>
              PyM.keeps_pure hR.refl _

end BodyFrame

theorem appendsNoFix_of_events_eq {w w' : World} (h : w'.events = w.events) : AppendsNoFix w w' :=
  ⟨[], by rw [h, List.append_nil], List.not_mem_nil _⟩

theorem appendsNoFix_bodyFrame : BodyFrame AppendsNoFix where
  refl := appendsNoFix_refl
  trans _ _ _ := appendsNoFix_trans
  openLog _ _ := ⟨[.write .executionLog], rfl, by simp⟩
  appendLog _ _ := appendsNoFix_of_events_eq rfl
  agentEffect _ _ := appendsNoFix_of_events_eq rfl
  stageWorkspace _ _ := appendsNoFix_of_events_eq rfl

/-! ## The statements -/

section Statements

variable {α : Type}

theorem noFix_pure (a : α) : NoFix (pure a : PyM Env World α) := noFix_of_stateless (PyM.stateless_pure a)

theorem noFix_read : NoFix (PyM.read : PyM Env World Env) := noFix_of_stateless PyM.stateless_read

theorem noFix_mayRaise (s : Site) : NoFix (mayRaise s) := noFix_of_stateless (stateless_mayRaise s)

/-- A statement run on the repository or the settings file leaves the event log alone. -/
theorem noFix_embed {ρ τ : Type} (e : Env → ρ) (view : World → τ) (update : τ → World → World)
    (hu : ∀ t w, (update t w).events = w.events) (x : PyM ρ τ α) :
    NoFix (PyM.embed e view update x) :=
  PyM.keeps_embed (fun t w => appendsNoFix_of_events_eq (hu t w)) x

theorem noFix_writeText (s : Site) (f : OutFile) (t : String) : NoFix (writeText s f t) :=
  noFix_bind (noFix_mayRaise s) fun _ _ _ => ⟨[.write f], rfl, by simp⟩

theorem noFix_writeManifest (s : Site) (m : Json) : NoFix (writeManifest s m) :=
  noFix_bind noFix_read fun _ => noFix_writeText _ _ _

theorem stateless_resolveSummary (goal : Json) (result : String) (success : Bool) :
    PyM.Stateless (resolveSummary goal result success) :=
  PyM.stateless_bind PyM.stateless_get fun w => by
    split
    · exact PyM.stateless_bind (stateless_mayRaise _) fun _ =>
        PyM.stateless_bind (stateless_readFile _) fun _ => PyM.stateless_pure _
    · exact PyM.stateless_bind PyM.stateless_read fun _ => PyM.stateless_pure _

/-- The artifact step calls `fix_permissions` as its last statement. -/
theorem fixOnReturn_generateArtifacts (goal : Json) (result : String) (success : Bool) :
    FixOnReturn (generateArtifacts goal result success) :=
  fixOnReturn_bind noFix_read fun _ =>
    fixOnReturn_bind appendsNoFix_bodyFrame.keeps_stageAndDiff fun _ =>
      fixOnReturn_bind (noFix_writeManifest _ _) fun _ =>
        fixOnReturn_bind (noFix_writeText _ _ _) fun _ =>
          fixOnReturn_bind (noFix_of_stateless (stateless_resolveSummary _ _ _)) fun _ =>
            fixOnReturn_bind (noFix_writeText _ _ _) fun _ _ _ =>
              ⟨[.fixPermissions], rfl, .inr ⟨[], rfl, List.not_mem_nil _⟩, fun _ => ⟨(), rfl⟩⟩

theorem fixOnReturn_tryBody (goal : Json) : FixOnReturn (tryBody goal) :=
  fixOnReturn_bind (noFix_mayRaise _) fun _ =>
    fixOnReturn_bind appendsNoFix_bodyFrame.keeps_sessionBlock fun _ => fixOnReturn_generateArtifacts _ _ _

/-- The handler calls `fix_permissions` after its one write, then raises. -/
theorem fixLast_exceptBlock (e : PyExc) : FixLast (exceptBlock e) :=
  fixLast_bind (noFix_writeManifest _ _) fun _ _ _ =>
    ⟨[.fixPermissions], rfl, .inr ⟨[], rfl, List.not_mem_nil _⟩⟩

end Statements

/-! ## What the body writes to `manifest.json`

The body's one write of `manifest.json` is the success manifest; no other statement of it touches
the file. -/

/-- `manifest.json` holds in `w'` what it held in `w`. -/
def ManifestKept (w w' : World) : Prop := w'.files .manifest = w.files .manifest

/-- `manifest.json` holds in `w'` what it held in `w`, or `m`. -/
def ManifestOr (m : Bytes) (w w' : World) : Prop :=
  w'.files .manifest = w.files .manifest ∨ w'.files .manifest = some m

section Manifest

variable {m : Bytes} {w1 w2 w3 : World}

theorem manifestKept_bodyFrame : BodyFrame ManifestKept where
  refl _ := rfl
  trans _ _ _ h1 h2 := h2.trans h1
  openLog _ _ := by simp [ManifestKept]
  appendLog _ _ := by simp [ManifestKept]
  agentEffect env w := agentEffect_files_of_ne env w (by decide)
  stageWorkspace _ _ := rfl

theorem manifestKept_writeText (s : Site) {f : OutFile} (hf : f ≠ .manifest) (t : String) :
    PyM.Keeps ManifestKept (writeText s f t) :=
  PyM.keeps_bind manifestKept_bodyFrame.trans (manifestKept_bodyFrame.keeps_mayRaise s) fun _ =>
    PyM.keeps_modify fun w => by simp [ManifestKept, Ne.symm hf]

theorem manifestKept_manifestOr : ManifestKept w1 w2 → ManifestOr m w2 w3 → ManifestOr m w1 w3
  | h, .inl h2 => .inl (h2.trans h)
  | _, .inr h2 => .inr h2

theorem manifestOr_trans : ManifestOr m w1 w2 → ManifestOr m w2 w3 → ManifestOr m w1 w3
  | h, .inl h2 => by rw [ManifestOr, h2]; exact h
  | _, .inr h2 => .inr h2

theorem keepsAt_manifestOr_of_keeps {α : Type} {x : PyM Env World α}
    (h : PyM.Keeps ManifestKept x) (env : Env) : PyM.KeepsAt env (ManifestOr m) x :=
  fun w => .inl (h env w)

theorem manifestOr_bind {α β : Type} {env : Env} {x : PyM Env World α} {f : α → PyM Env World β}
    (hx : PyM.KeepsAt env (ManifestOr m) x) (hf : ∀ a, PyM.KeepsAt env (ManifestOr m) (f a)) :
    PyM.KeepsAt env (ManifestOr m) (x >>= f) :=
  PyM.keepsAt_bind_of (R := ManifestOr m) (S := ManifestOr m) (fun _ _ _ => manifestOr_trans)
    (fun _ _ h => h) hx hf

/-- A write of the manifest `j` leaves `manifest.json` as it was, or holding `j`'s dump. -/
theorem writeManifest_manifestOr (env : Env) (s : Site) (j : Json) :
    PyM.KeepsAt env (ManifestOr (encodeUtf8 (env.host.jsonDumps j))) (writeManifest s j) := by
  apply PyM.keepsAt_read_bind
  exact manifestOr_bind (keepsAt_manifestOr_of_keeps (manifestKept_bodyFrame.keeps_mayRaise s) env)
    fun _ _ => .inr (by simp)

/-- **The artifact step writes `manifest.json` once**, with the success manifest of its verdict,
whatever it raises. -/
theorem generateArtifacts_manifestOr (goal : Json) (result : String) (success : Bool) (env : Env) :
    PyM.KeepsAt env (ManifestOr (encodeUtf8 (env.host.jsonDumps
      (successManifest success (env.endTime - env.startTime))))) (generateArtifacts goal result success) := by
  have hR := manifestKept_bodyFrame
  apply PyM.keepsAt_read_bind
  refine manifestOr_bind (keepsAt_manifestOr_of_keeps hR.keeps_stageAndDiff env) fun _ =>
    manifestOr_bind (writeManifest_manifestOr env _ _) fun _ => keepsAt_manifestOr_of_keeps ?_ env
  -- after its write of `manifest.json`, the step writes the patch and the summary
  exact PyM.keeps_bind hR.trans (manifestKept_writeText _ (by decide) _) fun _ =>
    PyM.keeps_bind hR.trans ((stateless_resolveSummary _ _ _).keeps hR.refl) fun _ =>
      PyM.keeps_bind hR.trans (manifestKept_writeText _ (by decide) _) fun _ =>
        PyM.keeps_modify fun _ => rfl

/-- **The body writes no manifest but the success manifest**: from any world, whatever it raises
where, the `try` body leaves `manifest.json` holding what it held, or the success manifest of the
stream's verdict. -/
theorem tryBody_manifestOr (goal : Json) (env : Env) (w : World) :
    ManifestOr (encodeUtf8 (env.host.jsonDumps
      (successManifest (streamSuccess env.messages) (env.endTime - env.startTime)))) w
      (tryBody goal env w).state := by
  cases hc : env.fault .connect with
  | some e => rw [tryBody, mayRaise_then_of_some hc]; exact .inl rfl
  | none =>
    have hk := manifestKept_bodyFrame.keeps_sessionBlock env w
    rw [tryBody, mayRaise_then_of_none hc]
    cases hs : sessionBlock env w with
    | ok r w1 =>
      rw [hs, Res.state_ok] at hk
      obtain ⟨-, rfl, -⟩ := sessionBlock_eq_ok.mp hs
      rw [PyM.bind_of_ok hs]
      exact manifestKept_manifestOr hk (generateArtifacts_manifestOr goal _ _ env w1)
    | raised e w1 =>
      rw [hs, Res.state_raised] at hk
      rw [PyM.bind_of_raised hs]
      exact .inl hk

end Manifest

/-! ## Before the `try` -/

/-- No output file differs between the two worlds, and neither does the event log. -/
def OutputKept (w w' : World) : Prop := w'.files = w.files ∧ w'.events = w.events

theorem outputKept_refl (w : World) : OutputKept w w := ⟨rfl, rfl⟩

theorem outputKept_trans {w1 w2 w3 : World} :
    OutputKept w1 w2 → OutputKept w2 w3 → OutputKept w1 w3
  | ⟨hf, he⟩, ⟨hf2, he2⟩ => ⟨hf2.trans hf, he2.trans he⟩

theorem outputKept_bind {α β : Type} {x : PyM Env World α} {f : α → PyM Env World β}
    (hx : PyM.Keeps OutputKept x) (hf : ∀ a, PyM.Keeps OutputKept (f a)) :
    PyM.Keeps OutputKept (x >>= f) :=
  PyM.keeps_bind (fun s t u => @outputKept_trans s t u) hx hf

/-- The statements before the `try` make the output directories, read the inputs, and change
only the workspace and the settings file. -/
theorem outputKept_prepare : PyM.Keeps OutputKept prepare :=
  outputKept_bind ((stateless_mayRaise _).keeps outputKept_refl) fun _ =>
  outputKept_bind ((stateless_mayRaise _).keeps outputKept_refl) fun _ =>
  outputKept_bind (stateless_loadGoal.keeps outputKept_refl) fun _ =>
    outputKept_bind (PyM.keeps_read outputKept_refl) fun _ =>
      outputKept_bind ((stateless_readPrompt _).keeps outputKept_refl) fun _ =>
        outputKept_bind ((stateless_readPrompt _).keeps outputKept_refl) fun _ =>
          outputKept_bind (PyM.keeps_embed (fun _ _ => ⟨rfl, rfl⟩) _) fun _ =>
            outputKept_bind (PyM.keeps_embed (fun _ _ => ⟨rfl, rfl⟩) _) fun _ =>
              PyM.keeps_pure outputKept_refl _

theorem noFix_prepare : NoFix prepare :=
  outputKept_prepare.mono fun _ _ h => ⟨[], by rw [h.2, List.append_nil], List.not_mem_nil _⟩

/-- **A failure before the `try` leaves the output directory alone** (lines 41–160): whatever the
statements before the `try` raise — an `OSError` making the output directories, `SystemExit(1)`
for a missing input, a `UnicodeDecodeError` reading one, a `CalledProcessError` from the baseline
commit — propagates out of `run_adapter`
unhandled, with no output file written, no failure manifest, and no call of `fix_permissions`. -/
theorem runAdapter_of_prepare_raised {env : Env} {w w' : World} {e : PyExc}
    (h : prepare env w = .raised e w') :
    runAdapter env w = .raised e w' ∧ w'.files = w.files ∧ w'.events = w.events := by
  have hk := outputKept_prepare env w
  rw [h] at hk
  exact ⟨PyM.bind_of_raised h, hk⟩

/-- **`fix_permissions` at most once, and last.**  From any world, whatever raises where, a run of
`run_adapter` only appends to the output directory's event log, and either never calls
`fix_permissions` or calls it once, after every write. -/
theorem runAdapter_fixPermissions_last (env : Env) (w : World) :
    ∃ E, (runAdapter env w).state.events = w.events ++ E ∧
      (Event.fixPermissions ∉ E ∨ ∃ E', E = E' ++ [.fixPermissions] ∧ Event.fixPermissions ∉ E') :=
  fixLast_bind noFix_prepare (fun goal => fixLast_tryExcept (fixOnReturn_tryBody goal) fixLast_exceptBlock)
    env w

end HolonAdapter
