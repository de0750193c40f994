import AnswerGateway.Completion.Request
import AnswerGateway.Http.Refusal
import AnswerGateway.Proofs.Cache.Wire
import AnswerGateway.Proofs.Chat.Wire

/-!
What crosses the wire as JSON is read back as it was written: requests to the gateway and to the
provider, records and lookups of a cache, events of an answer and refusals. Requests may carry a
temperature, which is not promised to come back; it never keeps the rest of the request from coming
back.
-/

namespace AnswerGateway

open Json

theorem CompletionRequest.reads_write {r : CompletionRequest} {depth : Nat} (deep : 1 < depth)
    (unset : r.temperature = none) :
    Reads ((CompletionRequest.format : Reader CompletionRequest) depth) r.write r := by
  obtain ⟨model, prompt, temperature, maxTokens⟩ := r
  obtain rfl := unset
  have ofModel :=
    (reads_text model (depth - 1)).map fun v (r : CompletionRequest) => { r with model := v }
  have ofPrompt :=
    (reads_text prompt (depth - 1)).map fun v (r : CompletionRequest) => { r with prompt := v }
  have withLimit (n : UInt32) :=
    (reads_nullable_word32 n (depth - 1)).map fun v (r : CompletionRequest) =>
      { r with maxTokens := v }
  refine reads_readRecord deep (.known rfl rfl ofModel (.known rfl rfl ofPrompt ?_))
  cases maxTokens with
  | none => exact .done rfl
  | some n => exact .known rfl rfl (withLimit n) (.done rfl)

namespace Http

theorem RefusalKind.reads_name (k : RefusalKind) (depth : Nat) :
    Reads ((RefusalKind.format : Reader RefusalKind) depth) (JsonText.quote k.name) k := by
  apply reads_readChoice
  cases k <;> rfl

theorem RefusalDetail.reads_write (d : RefusalDetail) {depth : Nat} (deep : 1 < depth) :
    Reads ((RefusalDetail.format : Reader RefusalDetail) depth) d.write d := by
  obtain ⟨message, kind, param, code⟩ := d
  have ofMessage :=
    (reads_text message (depth - 1)).map fun v (d : RefusalDetail) => { d with message := v }
  have ofKind := (kind.reads_name (depth - 1)).map fun v (d : RefusalDetail) => { d with kind := v }
  have withParam (text : String) :=
    (reads_nullable_text text (depth - 1)).map fun v (d : RefusalDetail) => { d with param := v }
  have withCode (text : String) :=
    (reads_nullable_text text (depth - 1)).map fun v (d : RefusalDetail) => { d with code := v }
  refine reads_readRecord deep (.known rfl rfl ofMessage (.known rfl rfl ofKind ?_))
  cases param with
  | none =>
      cases code with
      | none => exact .done rfl
      | some text => exact .known rfl rfl (withCode text) (.done rfl)
  | some text =>
      refine .known rfl rfl (withParam text) ?_
      cases code with
      | none => exact .done rfl
      | some text => exact .known rfl rfl (withCode text) (.done rfl)

theorem RefusalBody.reads_write (b : RefusalBody) {depth : Nat} (deep : 2 < depth) :
    Reads ((RefusalBody.format : Reader RefusalBody) depth) b.write b := by
  have detail : Reads ((RefusalDetail.format : Reader RefusalDetail) (depth - 1)) b.error.write
      b.error :=
    b.error.reads_write (by omega)
  have ofError := detail.map fun v (_ : RefusalBody) => RefusalBody.mk v
  exact reads_readRecord (by omega) (.known rfl rfl ofError (.done rfl))

end Http

/-- Whether a value is made of a text. -/
def ReadAs {α : Type} (reader : Reader α) (text : List Char) (a : α) : Prop :=
  decodeText reader (String.ofList text) = .ok a

/-- Decoding undoes encoding. A request comes back unless it carries a temperature; and a request
that was accepted, with whatever temperature and from whatever text, is accepted again as it is
echoed, with the same model, messages, limit and wish for a stream. -/
theorem wire_reads_back :
    (∀ r : Chat.Request, r.temperature = none → ReadAs Chat.Request.reader r.write r) ∧
    (∀ r : CompletionRequest, r.temperature = none → ReadAs CompletionRequest.format r.write r) ∧
    (∀ r : Cache.Record, ReadAs Cache.Record.format r.write r) ∧
    (∀ r : Cache.LookupResult, ReadAs Cache.LookupResult.format r.write r) ∧
    (∀ q : Cache.LookupRequest, ReadAs Cache.LookupRequest.format q.write q) ∧
    (∀ r : Cache.RecordResponse, ReadAs Cache.RecordResponse.format r.write r) ∧
    (∀ e : Chat.Event, ReadAs Chat.Event.format e.write e) ∧
    (∀ b : Http.RefusalBody, ReadAs Http.RefusalBody.format b.write b) ∧
    ∀ (text : String) (r : Chat.Request), decodeText Chat.Request.reader text = .ok r →
      ∃ echoed, ReadAs Chat.Request.reader r.write echoed ∧ echoed.model = r.model ∧
        echoed.messages = r.messages ∧ echoed.maxTokens = r.maxTokens ∧
        echoed.stream = r.stream := by
  refine ⟨?_, ?_, ?_, ?_, ?_, ?_, ?_, ?_, ?_⟩
  · exact fun r unset => (Chat.Request.reads_write (by decide) unset).decodeText
  · exact fun r unset => (CompletionRequest.reads_write (by decide) unset).decodeText
  · exact fun r => (r.reads_write (by decide)).decodeText
  · exact fun r => (r.reads_write (by decide)).decodeText
  · exact fun q => (q.reads_write (by decide)).decodeText
  · exact fun r => (r.reads_write (by decide)).decodeText
  · exact fun e => (e.reads_back (by decide)).decodeText
  · exact fun b => (b.reads_write (by decide)).decodeText
  · intro text r accepted
    have deep : 6 < depthLimit := by decide
    obtain ⟨t, reads⟩ := r.exists_reads_write deep
    exact ⟨_, reads.decodeText, rfl, rfl, rfl, rfl⟩

/-- Of a request with a temperature, a null, a field that no request has and the fields in another
order, all but the temperature comes back. -/
theorem wire_reads_back_warm :
    let cold : Chat.Request :=
      { model := "m", messages := [{ role := .user, content := some (.parts []) }] }
    let bare : CompletionRequest := { model := "m", prompt := "p", maxTokens := some 7 }
    let warm : Chat.Request :=
      { model := "m"
        messages := [{ role := .user, content := some (.parts [.imageUrl { url := "u" }]) }]
        temperature := some 1 }
    let text := "\x7b\"user\":[1,-2.5e3],\"temperature\":1,\"messages\":" ++
      "[\x7b\"content\":[\x7b\"type\":\"image_url\",\"image_url\":\x7b\"url\":\"u\"\x7d\x7d]," ++
      "\"role\":\"user\"\x7d],\"max_tokens\":null,\"model\":\"m\"\x7d"
    ReadAs Chat.Request.reader cold.write cold ∧ ReadAs CompletionRequest.format bare.write bare ∧
      decodeText Chat.Request.reader text = .ok warm ∧
      ∃ echoed, ReadAs Chat.Request.reader warm.write echoed ∧
        echoed.messages = warm.messages := by
  intro cold bare warm text
  have accepted : decodeText Chat.Request.reader text = .ok warm := by decide +kernel
  obtain ⟨echoed, reads, -, messages, -⟩ := wire_reads_back.2.2.2.2.2.2.2.2 text warm accepted
  exact ⟨wire_reads_back.1 cold rfl, wire_reads_back.2.1 bare rfl, accepted, echoed, reads,
    messages⟩

end AnswerGateway
