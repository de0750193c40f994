import AnswerGateway.Chat.Event
import AnswerGateway.Proofs.Completion.Event
import AnswerGateway.Proofs.Json.Written

/-!
The events that the gateway writes, read as a provider's. The reader of a provider's events has
other records than the writer, with fewer fields; what both have is read as it was written.
-/

namespace AnswerGateway.Chat

open Json Completion

/-- What is read of a choice as one of a provider's. -/
def Choice.received (c : Choice) : StreamChoice where
  content := c.delta.content
  finishReason := c.finishReason.map FinishReason.name

/-- What is read of an event as one of a provider's. -/
def Event.received (e : Event) : StreamChunk where
  choices := e.choices.map Choice.received

theorem Delta.reads_write (d : Delta) {depth : Nat} (deep : 1 < depth) :
    Reads ((StreamChunk.delta : Reader (Option String)) depth) d.write d.content := by
  refine reads_readRecord deep ?_
  obtain ⟨role, content⟩ := d
  cases role with
  | none => exact StreamChunk.fills_content rfl content
  | some role =>
      exact .unknown rfl (reads_skipAny_quote role.name) (StreamChunk.fills_content rfl content)

theorem Choice.reads_write (c : Choice) {depth : Nat} (deep : 2 < depth) :
    Reads ((StreamChunk.choice : Reader StreamChoice) depth) c.write c.received := by
  have delta : Reads (readOptional (StreamChunk.delta : Reader (Option String)) (depth - 1))
      c.delta.write (some c.delta.content) :=
    reads_readOptional_some (c.delta.reads_write (by omega)) (show some '\x7b' ≠ some 'n' by decide)
  have finish : Reads (readOptional (Format.text : Reader String) (depth - 1))
      (JsonText.orNull (fun r => JsonText.quote (FinishReason.name r)) c.finishReason)
      (c.finishReason.map FinishReason.name) := by
    cases c.finishReason with
    | none => exact reads_readOptional_none _ _
    | some reason => exact reads_nullable_text reason.name _
  refine reads_readRecord (by omega) ?_
  refine .unknown rfl (reads_skipAny_whole c.index.toNat) ?_
  refine .known rfl rfl (delta.map fun v (c : StreamChoice) => { c with content := v.join }) ?_
  refine .known rfl rfl (finish.map fun v (c : StreamChoice) => { c with finishReason := v }) ?_
  exact .done rfl

theorem Event.reads_write (e : Event) {depth : Nat} (deep : 4 < depth) :
    Reads ((StreamChunk.format : Reader StreamChunk) depth) e.write e.received := by
  have choices : Reads (readListOf (StreamChunk.choice : Reader StreamChoice) (depth - 1))
      (JsonText.list (e.choices.map Choice.write)) (e.choices.map Choice.received) :=
    reads_readListOf (by omega) e.choices fun c _ => c.reads_write (by omega)
  refine reads_readRecord (by omega) ?_
  refine .unknown rfl (reads_skipAny_quote e.id) ?_
  refine .unknown rfl (reads_skipAny_quote e.object) ?_
  refine .unknown rfl (reads_skipAny_whole e.created.toInt) ?_
  refine .unknown rfl (reads_skipAny_quote e.model) ?_
  exact .known rfl rfl (choices.map fun v (c : StreamChunk) => { c with choices := v }) (.done rfl)

/-! An event stands on one line. -/

theorem Delta.plain_write (d : Delta) : JsonText.Plain d.write := by
  obtain ⟨role, content⟩ := d
  apply JsonText.plain_object
  cases role <;> cases content <;>
    simp [JsonText.fieldIfSome, JsonText.plain_quote]

theorem Choice.plain_write (c : Choice) : JsonText.Plain c.write := by
  have finish : JsonText.Plain
      (JsonText.orNull (fun r => JsonText.quote (FinishReason.name r)) c.finishReason) := by
    cases c.finishReason with
    | none => exact JsonText.plain_literalNull
    | some reason => exact JsonText.plain_quote reason.name
  apply JsonText.plain_object
  simp [JsonText.field, JsonText.plain_natural, c.delta.plain_write, finish]

theorem Event.plain_write (e : Event) : JsonText.Plain e.write := by
  have choices : JsonText.Plain (JsonText.list (e.choices.map Choice.write)) := by
    apply JsonText.plain_list
    intro text member
    obtain ⟨c, -, rfl⟩ := List.mem_map.mp member
    exact c.plain_write
  apply JsonText.plain_object
  simp [JsonText.field, JsonText.plain_quote, JsonText.plain_whole, choices]

end AnswerGateway.Chat
