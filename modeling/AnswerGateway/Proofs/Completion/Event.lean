import AnswerGateway.Proofs.Completion.Answer
import AnswerGateway.Proofs.Json.Value
import AnswerGateway.Proofs.Json.Whole

/-!
What the events of a provider say, told by how a provider writes them. The text of an event is the
content of the delta of its first choice, its number of tokens is the total of its usage, and its
error is the message of the error, whatever texts and numbers these are.
-/

namespace AnswerGateway.Completion

open Json JsonText

/-- An event as a provider writes it: the contents of its choices, the tokens that it counts and the
message of its error. -/
structure ProviderEvent where
  id : String
  contents : List (Option String) := []
  total : Option UInt32 := none
  error : Option String := none

namespace ProviderEvent

def writeChoice (content : Option String) : List Char :=
  object (field "delta" (object (fieldIfSome "content" quote content)))

def writeUsage (total : UInt32) : List Char :=
  object (field "total_tokens" (natural total.toNat))

def writeError (message : String) : List Char := object (field "message" (quote message))

def write (e : ProviderEvent) : List Char :=
  object (field "id" (quote e.id) ++ field "choices" (list (e.contents.map writeChoice)) ++
    fieldIfSome "usage" writeUsage e.total ++ fieldIfSome "error" writeError e.error)

/-- The line that the event stands on. -/
def line (e : ProviderEvent) : String := "data: " ++ String.ofList e.write

def received (e : ProviderEvent) : StreamChunk where
  choices := e.contents.map fun content => { content }
  totalTokens := e.total
  error := e.error

end ProviderEvent

namespace StreamChunk

variable {depth : Nat}

theorem fills_content {seen : List String} (fresh : seen.contains "content" = false)
    (content : Option String) :
    Fills [Format.nullable "content" (Format.text : Reader String) fun v _ => v] depth seen none
      (fieldIfSome "content" quote content) content := by
  cases content with
  | none => exact .done rfl
  | some text =>
      exact .known rfl fresh ((reads_nullable_text text depth).map fun v _ => v) (.done rfl)

theorem reads_choice (content : Option String) (deep : 2 < depth) :
    Reads ((StreamChunk.choice : Reader StreamChoice) depth) (ProviderEvent.writeChoice content)
      { content } := by
  have delta : Reads (readOptional (StreamChunk.delta : Reader (Option String)) (depth - 1))
      (object (fieldIfSome "content" quote content)) (some content) :=
    reads_readOptional_some (reads_readRecord (by omega) (fills_content rfl content))
      (show some '\x7b' ≠ some 'n' by decide)
  refine reads_readRecord (by omega) ?_
  exact .known rfl rfl (delta.map fun v (c : StreamChoice) => { c with content := v.join })
    (.done rfl)

theorem reads_usage (total : UInt32) (deep : 1 < depth) :
    Reads (readOptional (StreamChunk.usage : Reader UInt32) depth) (ProviderEvent.writeUsage total)
      (some total) := by
  refine reads_readOptional_some ?_ (show some '\x7b' ≠ some 'n' by decide)
  refine reads_readRecord deep ?_
  exact .known rfl rfl ((reads_word32 total (depth - 1)).map fun v _ => v) (.done rfl)

theorem reads_error (message : String) (deep : 1 < depth) :
    Reads (readOptional (StreamChunk.errorMessage : Reader String) depth)
      (ProviderEvent.writeError message) (some message) := by
  refine reads_readOptional_some ?_ (show some '\x7b' ≠ some 'n' by decide)
  refine reads_readRecord deep ?_
  exact .known rfl rfl ((reads_text message (depth - 1)).map fun v _ => v) (.done rfl)

end StreamChunk

namespace ProviderEvent

theorem reads_write (e : ProviderEvent) {depth : Nat} (deep : 4 < depth) :
    Reads ((StreamChunk.format : Reader StreamChunk) depth) e.write e.received := by
  obtain ⟨id, contents, total, error⟩ := e
  have choices : Reads (readListOf (StreamChunk.choice : Reader StreamChoice) (depth - 1))
      (list (contents.map writeChoice)) (contents.map fun content => { content }) :=
    reads_readListOf (by omega) contents fun content _ =>
      StreamChunk.reads_choice content (by omega)
  have deeper : 1 < depth - 1 := by omega
  have usage (total : UInt32) := (StreamChunk.reads_usage total deeper).map
    fun v (c : StreamChunk) => { c with totalTokens := v }
  have failure (message : String) := (StreamChunk.reads_error message deeper).map
    fun v (c : StreamChunk) => { c with error := v }
  refine reads_readRecord (by omega) (.unknown rfl (reads_skipAny_quote id) ?_)
  refine .known rfl rfl (choices.map fun v (c : StreamChunk) => { c with choices := v }) ?_
  cases total with
  | none =>
      cases error with
      | none => exact .done rfl
      | some message => exact .known rfl rfl (failure message) (.done rfl)
  | some total =>
      refine .known rfl rfl (usage total) ?_
      cases error with
      | none => exact .done rfl
      | some message => exact .known rfl rfl (failure message) (.done rfl)

end ProviderEvent

end AnswerGateway.Completion
