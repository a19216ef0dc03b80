import Mathlib.Data.List.Basic
import Mathlib.Data.String.Basic

/-!
# Session — the messages of a response stream, and what the adapter reads from them

`client.receive_response()` yields the session's messages in arrival order.  The adapter tells
three kinds apart (lines 177–185): an `AssistantMessage`, whose `TextBlock`s it accumulates; a
`ResultMessage`, which ends the loop and whose `is_error` sets `success`; and anything else,
which it only logs.

The functions below say, over a whole stream, what the loop is meant to compute:

* `firstResultIndex` — the index of the first `ResultMessage`, the stream's length if none;
* `assistantText` — the in-order concatenation of the text blocks of the assistant messages;
* `streamSuccess` — `false` exactly when the first `ResultMessage` reports an error.
-/

namespace HolonAdapter

/-- A block of an assistant message's content. -/
inductive ContentBlock where
  | textBlock (text : String)
  /-- `ToolUseBlock`, `ThinkingBlock`, `ToolResultBlock`, … by class name. -/
  | otherBlock (kind : String)
  deriving DecidableEq, Repr

/-- A message of the response stream. -/
inductive Message where
  | assistantMessage (content : List ContentBlock)
  | resultMessage (subtype : String) (isError : Bool)
  /-- `UserMessage`, `SystemMessage`, `StreamEvent`, … by class name. -/
  | otherMessage (kind : String)
  deriving DecidableEq, Repr

/-- `isinstance(msg, ResultMessage)`. -/
def Message.isResult : Message → Bool
  | .resultMessage _ _ => true
  | _ => false

/-- Lines 178–180: `final_output += block.text` for each `TextBlock`, in order. -/
def appendTextBlocks (out : String) : List ContentBlock → String
  | [] => out
  | .textBlock t :: bs => appendTextBlocks (out ++ t) bs
  | .otherBlock _ :: bs => appendTextBlocks out bs

/-! ## What the loop is meant to compute -/

/-- The index of the first `ResultMessage`; the stream's length when there is none. -/
def firstResultIndex (ms : List Message) : ℕ := ms.findIdx Message.isResult

/-- The text of a block: a `TextBlock`'s text, and nothing of any other block. -/
def ContentBlock.texts : ContentBlock → List String
  | .textBlock t => [t]
  | .otherBlock _ => []

/-- The texts of a message's text blocks, in order: none unless it is an assistant message. -/
def Message.texts : Message → List String
  | .assistantMessage content => content.flatMap ContentBlock.texts
  | _ => []

/-- **The text of every text block of every assistant message**, concatenated in order. -/
def assistantText (ms : List Message) : String := String.join (ms.flatMap Message.texts)

/-- **The stream's verdict**: `false` exactly when its first `ResultMessage` has `is_error`. -/
def streamSuccess (ms : List Message) : Bool :=
  match ms.find? Message.isResult with
  | some (.resultMessage _ isError) => !isError
  | _ => true

theorem join_append (ss ts : List String) :
    String.join (ss ++ ts) = String.join ss ++ String.join ts := by
  simp only [String.join_eq, List.map_append, List.flatten_append]
  rfl

theorem join_cons (t : String) (ts : List String) : String.join (t :: ts) = t ++ String.join ts := by
  simp only [String.join_eq, List.map_cons, List.flatten_cons]
  rfl

@[simp] theorem assistantText_nil : assistantText [] = "" := rfl

theorem assistantText_cons (m : Message) (ms : List Message) :
    assistantText (m :: ms) = String.join m.texts ++ assistantText ms := by
  rw [assistantText, List.flatMap_cons, join_append, assistantText]

/-- **The loop's accumulation is the concatenation**: lines 178–180 append to `out` the texts of
the text blocks, in order. -/
theorem appendTextBlocks_eq (out : String) (bs : List ContentBlock) :
    appendTextBlocks out bs = out ++ String.join (bs.flatMap ContentBlock.texts) := by
  induction bs generalizing out with
  | nil => exact (String.append_empty out).symm
  | cons b bs ih =>
    cases b with
    | textBlock t =>
      rw [appendTextBlocks, ih, List.flatMap_cons, join_append, String.append_assoc]
      rfl
    | otherBlock _ => rw [appendTextBlocks, ih, List.flatMap_cons]; rfl

@[simp] theorem firstResultIndex_nil : firstResultIndex [] = 0 := rfl

theorem firstResultIndex_cons (m : Message) (ms : List Message) :
    firstResultIndex (m :: ms) = if m.isResult then 0 else firstResultIndex ms + 1 := by
  simp only [firstResultIndex, List.findIdx_cons]
  cases m.isResult <;> rfl

@[simp] theorem streamSuccess_nil : streamSuccess [] = true := rfl

theorem streamSuccess_cons_result (s : String) (e : Bool) (ms : List Message) :
    streamSuccess (.resultMessage s e :: ms) = !e := rfl

theorem streamSuccess_cons_of_not_result {m : Message} (hm : m.isResult = false)
    (ms : List Message) : streamSuccess (m :: ms) = streamSuccess ms := by
  simp only [streamSuccess, List.find?_cons, hm]

/-- **The verdict in the stream's own terms**: no `ResultMessage`, or a first one without
`is_error`. -/
theorem streamSuccess_iff (ms : List Message) :
    streamSuccess ms = true ↔
      ∀ s e, ms.find? Message.isResult = some (.resultMessage s e) → e = false := by
  unfold streamSuccess
  cases h : ms.find? Message.isResult with
  | none => simp
  | some m => cases m <;> simp

end HolonAdapter
