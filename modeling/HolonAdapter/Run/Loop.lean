import HolonAdapter.Run.World

/-!
# Run/Loop — the session block: the response loop and the evidence log (lines 169–188)

Inside `with open(log_file_path, 'w')` the adapter sends the query, then reads the response stream
message by message: each message is logged as `"Message: " + str(msg)`, the text blocks of
assistant messages are gathered into `final_output`, and the first `ResultMessage` sets `success`
from its `is_error` and ends the loop.  The block ends by logging `--- FINAL OUTPUT ---` and the
gathered text.

* `receiveLoop_eq_ok` — the loop, from any message on, returns exactly when no statement it
  reaches raises; it then returns the text of the messages before the first result
  (`assistantText`) and the stream's verdict, and logs the messages up to and including the first
  result (`consumedLog`);
* `sessionBlock_log` — the whole block, from the start of the stream.
-/

namespace HolonAdapter

/-- The line line 175 logs for a message. -/
def messageLine (env : Env) (m : Message) : String := "Message: " ++ env.msgStr m ++ "\n"

/-- **Lines 174–185**: the `async for` over the response stream from message `i` on, with the text
gathered so far and `success`. -/
def receiveLoop : ℕ → List Message → String → Bool → PyM Env World (String × Bool)
  | i, [], finalOutput, success => do
    mayRaise (.receive i)
    pure (finalOutput, success)
  | i, m :: ms, finalOutput, success => do
    mayRaise (.receive i)
    logWrite (.logMessage i) (messageLine (← PyM.read) m)
    match m with
    | .assistantMessage content =>
      receiveLoop (i + 1) ms (appendTextBlocks finalOutput content) success
    | .resultMessage _ isError => pure (finalOutput, if isError then false else success)
    | .otherMessage _ => receiveLoop (i + 1) ms finalOutput success

/-- What the agent's session does: its actions on the workspace, and the `summary.md` it writes. -/
def agentEffect (env : Env) (w : World) : World :=
  { w with
    repo := runActions env.ignored w.repo env.agentActions
    files := match env.agentSummary with
      | some c => Function.update w.files .summary (some c)
      | none => w.files }

/-- `await client.query(user_msg)` (line 171): the prompt goes out, and the agent works. -/
def query : PyM Env World Unit := do
  mayRaise .query
  PyM.modify (agentEffect (← PyM.read))

/-- **Lines 169–188**: the session block; it returns `result` and `success`. -/
def sessionBlock : PyM Env World (String × Bool) := do
  writeText .openLog .executionLog ""
  query
  let (finalOutput, success) ← receiveLoop 0 (← PyM.read).messages "" true
  logWrite .logFinal ("--- FINAL OUTPUT ---\n" ++ finalOutput ++ "\n")
  pure (finalOutput, success)

/-! ## What the loop computes -/

/-- The statements the loop reaches from message `i` on raise nothing. -/
def LoopClear (env : Env) : ℕ → List Message → Prop
  | i, [] => env.fault (.receive i) = none
  | i, m :: ms => env.fault (.receive i) = none ∧ env.fault (.logMessage i) = none ∧
      (m.isResult = false → LoopClear env (i + 1) ms)

/-- **The log of consumed messages**: for each, in order, a line `Message: ` followed by its `str`. -/
def consumedLog (env : Env) (ms : List Message) : String :=
  String.join (ms.map fun m => "Message: " ++ env.msgStr m ++ "\n")

@[simp] theorem consumedLog_nil (env : Env) : consumedLog env [] = "" := rfl

/-- Line 175 writes the consumed log one message at a time. -/
theorem consumedLog_cons (env : Env) (m : Message) (ms : List Message) :
    consumedLog env (m :: ms) = messageLine env m ++ consumedLog env ms := by
  rw [consumedLog, List.map_cons, join_cons]
  rfl

@[simp] theorem agentEffect_events (env : Env) (w : World) : (agentEffect env w).events = w.events :=
  rfl

theorem agentEffect_files_of_ne (env : Env) (w : World) {f : OutFile} (hf : f ≠ .summary) :
    (agentEffect env w).files f = w.files f := by
  unfold agentEffect
  split <;> simp [Function.update_noteq hf]

theorem agentEffect_appendLog (env : Env) (w : World) (b : Bytes) :
    agentEffect env (w.appendLog b) = (agentEffect env w).appendLog b := by
  unfold agentEffect World.appendLog
  split <;> simp [Function.update_comm (show OutFile.summary ≠ .executionLog by decide)]

/-- One logged message: the loop goes on, with the log grown by the message's line, exactly when
neither its `await` nor its log line raises. -/
theorem logged_eq_ok {α : Type} {env : Env} {i : ℕ} {m : Message} {x : PyM Env World α}
    {w w' : World} {a : α} :
    (do mayRaise (.receive i); logWrite (.logMessage i) (messageLine (← PyM.read) m); x) env w =
        .ok a w' ↔
      env.fault (.receive i) = none ∧ env.fault (.logMessage i) = none ∧
        x env (w.appendLog (encodeUtf8 (messageLine env m).data)) = .ok a w' := by
  rw [mayRaise_then_eq_ok, PyM.bind_of_ok (PyM.read_apply env w), PyM.bind_eq_ok]
  simp only [logWrite_eq_ok]
  constructor
  · rintro ⟨h, _, _, ⟨hl, rfl⟩, hx⟩
    exact ⟨h, hl, hx⟩
  · rintro ⟨h, hl, hx⟩
    exact ⟨h, (), _, ⟨hl, rfl⟩, hx⟩

/-- A message other than a result: the loop logs it, gathers its text, and goes on. -/
theorem receiveLoop_cons_of_not_result {i : ℕ} {m : Message} {ms : List Message} {out : String}
    {success : Bool} (hm : m.isResult = false) :
    receiveLoop i (m :: ms) out success =
      (do mayRaise (.receive i); logWrite (.logMessage i) (messageLine (← PyM.read) m)
          receiveLoop (i + 1) ms (out ++ String.join m.texts) success) := by
  cases m with
  | assistantMessage content => rw [receiveLoop.eq_2, Message.texts, appendTextBlocks_eq]
  | resultMessage => cases hm
  | otherMessage k =>
    simp only [receiveLoop, Message.texts]
    rw [show String.join [] = "" from rfl, String.append_empty]

/-- **The response loop.**  From message `i` on, the loop returns exactly when no statement it
reaches raises.  It then returns the gathered text followed by the text of the messages before the
first result, and `success` unless the first result reports an error; it logs the messages up to
and including the first result. -/
theorem receiveLoop_eq_ok {env : Env} {i : ℕ} {ms : List Message} {out : String}
    {success : Bool} {w w' : World} {r : String × Bool} :
    receiveLoop i ms out success env w = .ok r w' ↔
      LoopClear env i ms ∧
      r = (out ++ assistantText (ms.take (firstResultIndex ms)), streamSuccess ms && success) ∧
      w' = w.appendLog (encodeUtf8 (consumedLog env (ms.take (firstResultIndex ms + 1))).data) := by
  induction ms generalizing i out w with
  | nil =>
    rw [receiveLoop, mayRaise_then_eq_ok]
    simp [LoopClear, World.appendLog_nil, eq_comm]
  | cons m ms ih =>
    cases hm : m.isResult
    · rw [receiveLoop_cons_of_not_result hm, logged_eq_ok]
      simp only [ih, LoopClear, hm, firstResultIndex_cons, Bool.false_eq_true, if_false,
        List.take_succ_cons, assistantText_cons, consumedLog_cons, streamSuccess_cons_of_not_result hm,
        World.appendLog_appendLog, String.data_append, encodeUtf8_append, String.append_assoc,
        forall_const]
      tauto
    · cases m with
      | resultMessage s e =>
        rw [receiveLoop.eq_3, logged_eq_ok]
        simp only [LoopClear, Message.isResult, firstResultIndex_cons, if_true, List.take_zero,
          List.take_succ_cons, assistantText_nil, consumedLog_cons, consumedLog_nil,
          streamSuccess_cons_result,
          String.append_empty, PyM.pure_apply, Res.ok.injEq, Bool.true_eq_false, false_implies,
          and_true, eq_comm]
        cases e <;> simp [and_assoc]
      | _ => cases hm

theorem loopClear_of_forall {env : Env} {i : ℕ} {ms : List Message}
    (h : ∀ j ≤ firstResultIndex ms,
      env.fault (.receive (i + j)) = none ∧ env.fault (.logMessage (i + j)) = none) :
    LoopClear env i ms := by
  induction ms generalizing i with
  | nil => exact (h 0 (Nat.zero_le _)).1
  | cons m ms ih =>
    refine ⟨(h 0 (Nat.zero_le _)).1, (h 0 (Nat.zero_le _)).2, fun hm => ih fun j hj => ?_⟩
    have := h (j + 1) (by rw [firstResultIndex_cons, hm]; simpa using hj)
    rwa [← Nat.add_assoc, Nat.add_right_comm] at this

theorem query_eq_ok {env : Env} {w w' : World} {u : Unit} :
    query env w = .ok u w' ↔ env.fault .query = none ∧ w' = agentEffect env w := by
  rw [query, mayRaise_then_eq_ok, PyM.bind_of_ok (PyM.read_apply env w)]
  simp [eq_comm]

/-- `result`: the text of the assistant messages before the first result. -/
def sessionResult (env : Env) : String :=
  assistantText (env.messages.take (firstResultIndex env.messages))

/-- The evidence log of a session block that raises nothing. -/
def sessionLog (env : Env) : String :=
  consumedLog env (env.messages.take (firstResultIndex env.messages + 1)) ++
    "--- FINAL OUTPUT ---\n" ++ sessionResult env ++ "\n"

/-- The world a session block that raises nothing leaves. -/
def sessionWorld (env : Env) (w : World) : World :=
  (agentEffect env (w.write .executionLog [])).appendLog (encodeUtf8 (sessionLog env).data)

/-- The statements of the session block raise nothing — the loop's only up to the first result. -/
def SessionClear (env : Env) : Prop :=
  env.fault .openLog = none ∧ env.fault .query = none ∧ LoopClear env 0 env.messages ∧
    env.fault .logFinal = none

@[simp] theorem sessionWorld_events (env : Env) (w : World) :
    (sessionWorld env w).events = w.events ++ [.write .executionLog] := rfl

/-- **The session block.**  It returns exactly when its statements raise nothing; it then returns
`result` and the stream's verdict, and leaves `sessionWorld`. -/
theorem sessionBlock_eq_ok {env : Env} {w w' : World} {r : String × Bool} :
    sessionBlock env w = .ok r w' ↔
      SessionClear env ∧ r = (sessionResult env, streamSuccess env.messages) ∧
        w' = sessionWorld env w := by
  simp only [sessionBlock, PyM.bind_eq_ok, writeText_eq_ok, query_eq_ok, PyM.read_apply,
    Res.ok.injEq, receiveLoop_eq_ok, logWrite_eq_ok, PyM.pure_apply, Bool.and_true,
    String.empty_append, String.data_append, encodeUtf8_append, ← World.appendLog_appendLog,
    sessionResult, sessionWorld, sessionLog]
  constructor
  · rintro ⟨_, _, ⟨ho, rfl⟩, _, _, ⟨hq, rfl⟩, _, _, ⟨rfl, rfl⟩, ⟨out, ok⟩, _, ⟨hl, hr, rfl⟩, _, _,
      ⟨hf, rfl⟩, rfl, rfl⟩
    cases hr
    exact ⟨⟨ho, hq, hl, hf⟩, rfl, rfl⟩
  · rintro ⟨⟨ho, hq, hl, hf⟩, rfl, rfl⟩
    exact ⟨(), _, ⟨ho, rfl⟩, (), _, ⟨hq, rfl⟩, _, _, ⟨rfl, rfl⟩, _, _, ⟨hl, rfl, rfl⟩, (), _,
      ⟨hf, rfl⟩, rfl, rfl⟩

/-- **The evidence log.**  When the session block's own statements raise nothing — the loop's only
up to the first `ResultMessage`, whatever the stream does after it — it consumes the messages up to
and including the first `ResultMessage` and no further: the log is `consumedLog` of them, one
`Message:` line each in arrival order, then the final output; and `result` is `assistantText` of
the messages before it, the texts of their text blocks in order. -/
theorem sessionBlock_log (env : Env) (w : World)
    (hopen : env.fault .openLog = none) (hquery : env.fault .query = none)
    (hloop : ∀ j ≤ firstResultIndex env.messages,
      env.fault (.receive j) = none ∧ env.fault (.logMessage j) = none)
    (hfinal : env.fault .logFinal = none) :
    ∃ w', sessionBlock env w =
        .ok (assistantText (env.messages.take (firstResultIndex env.messages)),
          streamSuccess env.messages) w' ∧
      w'.files .executionLog = some (encodeUtf8
        (consumedLog env (env.messages.take (firstResultIndex env.messages + 1)) ++
          "--- FINAL OUTPUT ---\n" ++ assistantText (env.messages.take (firstResultIndex env.messages))
          ++ "\n").data) := by
  refine ⟨_, sessionBlock_eq_ok.mpr ⟨⟨hopen, hquery, loopClear_of_forall ?_, hfinal⟩, rfl, rfl⟩, ?_⟩
  · simpa only [Nat.zero_add] using hloop
  · simp [sessionWorld, sessionLog, sessionResult, agentEffect_files_of_ne]

/-- The evidence log of a stream of an assistant message with a text block and a tool-use block, a
result, and a message after it that the loop never reads. -/
theorem sessionBlock_log_sample :
    ∃ w', sessionBlock { sampleEnv with messages := [.assistantMessage [.textBlock "hi",
        .otherBlock "ToolUseBlock"], .resultMessage "success" false, .otherMessage "SystemMessage"] }
        sampleWorld = .ok ("hi", true) w' ∧
      w'.files .executionLog =
        some (encodeUtf8 "Message: msg\nMessage: msg\n--- FINAL OUTPUT ---\nhi\n".data) :=
  sessionBlock_log _ sampleWorld rfl rfl (fun _ _ => ⟨rfl, rfl⟩) rfl

end HolonAdapter
