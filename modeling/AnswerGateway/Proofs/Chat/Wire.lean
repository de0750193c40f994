import AnswerGateway.Chat.Event
import AnswerGateway.Chat.Request
import AnswerGateway.Proofs.Chat.Message
import AnswerGateway.Proofs.Json.Single

/-!
Chat requests and the events of an answer are read back as they are written. A temperature is
written by its shortest digits and need not come back as it was, but whatever is written for one is
read as some temperature or none, and every other field comes back unchanged.
-/

namespace AnswerGateway.Chat

open Json

/-- A request with a temperature that was read in place of its own. -/
theorem Request.reads_with (r : Request) {t : Option Float32} {depth : Nat} (deep : 6 < depth)
    (temperature : ∀ x, r.temperature = some x →
      Reads (readOptional (Format.single : Reader Float32) (depth - 1)) (JsonText.single x) t)
    (unset : r.temperature = none → t = none) :
    Reads (Request.reader depth) r.write { r with temperature := t } := by
  obtain ⟨model, messages, temperature?, maxTokens, stream⟩ := r
  have ofModel := (reads_text model (depth - 1)).map fun v (r : Request) => { r with model := v }
  have list : Reads (readListOf Message.reader (depth - 1))
      (JsonText.list (messages.map Message.write)) messages :=
    reads_readListOf_self (by omega) messages fun m _ => m.reads_write (by omega)
  have ofMessages := list.map fun v (r : Request) => { r with messages := v }
  have ofStream := (reads_readFlag stream).map fun v (r : Request) => { r with stream := v }
  have withLimit (n : UInt32) :=
    (reads_nullable_word32 n (depth - 1)).map fun v (r : Request) => { r with maxTokens := v }
  refine reads_readRecord (by omega) (.known rfl rfl ofModel (.known rfl rfl ofMessages ?_))
  cases temperature? with
  | none =>
      obtain rfl := unset rfl
      cases maxTokens with
      | none => exact .known rfl rfl ofStream (.done rfl)
      | some n => exact .known rfl rfl (withLimit n) (.known rfl rfl ofStream (.done rfl))
  | some x =>
      have ofTemperature :=
        (temperature x rfl).map fun v (r : Request) => { r with temperature := v }
      refine .known rfl rfl ofTemperature ?_
      cases maxTokens with
      | none => exact .known rfl rfl ofStream (.done rfl)
      | some n => exact .known rfl rfl (withLimit n) (.known rfl rfl ofStream (.done rfl))

/-- A request without a temperature is read back as it is. -/
theorem Request.reads_write {r : Request} {depth : Nat} (deep : 6 < depth)
    (unset : r.temperature = none) : Reads (Request.reader depth) r.write r := by
  have reads := r.reads_with deep (t := none) (fun x set => ?_) fun _ => rfl
  · rw [← unset] at reads
    exact reads
  · rw [unset] at set
    cases set

/-- Any request is read back, with every field but its temperature unchanged. -/
theorem Request.exists_reads_write (r : Request) {depth : Nat} (deep : 6 < depth) :
    ∃ t, Reads (Request.reader depth) r.write { r with temperature := t } := by
  cases set : r.temperature with
  | none => exact ⟨none, set ▸ Request.reads_write deep set⟩
  | some x =>
      obtain ⟨t, reads⟩ := exists_reads_single x (depth - 1)
      refine ⟨t, r.reads_with deep (fun y same => ?_) fun none => ?_⟩
      · rw [set] at same
        cases same
        exact reads
      · rw [set] at none
        cases none

/-! Events. -/

theorem FinishReason.reads_name (f : FinishReason) (depth : Nat) :
    Reads (readOptional (FinishReason.format : Reader FinishReason) depth) (JsonText.quote f.name)
      (some f) := by
  refine reads_readOptional_some (reads_readChoice ?_ depth) (show some '"' ≠ some 'n' by decide)
  cases f <;> rfl

theorem Delta.reads_back (d : Delta) {depth : Nat} (deep : 1 < depth) :
    Reads ((Delta.format : Reader Delta) depth) d.write d := by
  obtain ⟨role, content⟩ := d
  have ofRole (r : Role) :
      Reads (readOptional (Role.format : Reader Role) (depth - 1)) (JsonText.quote r.name)
        (some r) :=
    reads_readOptional_some (r.reads_name _) (show some '"' ≠ some 'n' by decide)
  have withRole (r : Role) := (ofRole r).map fun v (d : Delta) => { d with role := v }
  have withContent (text : String) :=
    (reads_nullable_text text (depth - 1)).map fun v (d : Delta) => { d with content := v }
  apply reads_readRecord deep
  cases role with
  | none =>
      cases content with
      | none => exact .done rfl
      | some text => exact .known rfl rfl (withContent text) (.done rfl)
  | some r =>
      refine .known rfl rfl (withRole r) ?_
      cases content with
      | none => exact .done rfl
      | some text => exact .known rfl rfl (withContent text) (.done rfl)

theorem Choice.reads_back (c : Choice) {depth : Nat} (deep : 2 < depth) :
    Reads ((Choice.format : Reader Choice) depth) c.write c := by
  have finish : Reads (readOptional (FinishReason.format : Reader FinishReason) (depth - 1))
      (JsonText.orNull (fun r => JsonText.quote (FinishReason.name r)) c.finishReason)
      c.finishReason := by
    cases c.finishReason with
    | none => exact reads_readOptional_none _ _
    | some f => exact f.reads_name _
  have delta : Reads ((Delta.format : Reader Delta) (depth - 1)) c.delta.write c.delta :=
    c.delta.reads_back (by omega)
  have ofIndex :=
    (reads_word32 c.index (depth - 1)).map fun v (c : Choice) => { c with index := v }
  have ofDelta := delta.map fun v (c : Choice) => { c with delta := v }
  have ofFinish := finish.map fun v (c : Choice) => { c with finishReason := v }
  apply reads_readRecord (by omega)
  exact .known rfl rfl ofIndex (.known rfl rfl ofDelta (.known rfl rfl ofFinish (.done rfl)))

theorem Event.reads_back (e : Event) {depth : Nat} (deep : 4 < depth) :
    Reads ((Event.format : Reader Event) depth) e.write e := by
  have choices : Reads (readListOf (Choice.format : Reader Choice) (depth - 1))
      (JsonText.list (e.choices.map Choice.write)) e.choices :=
    reads_readListOf_self (by omega) e.choices fun c _ => c.reads_back (by omega)
  have text (s : String) := reads_text s (depth - 1)
  have created := reads_int64 e.created (depth - 1)
  apply reads_readRecord (by omega)
  refine .known rfl rfl ((text e.id).map fun v (e : Event) => { e with id := v }) ?_
  refine .known rfl rfl ((text e.object).map fun v (e : Event) => { e with object := v }) ?_
  refine .known rfl rfl (created.map fun v (e : Event) => { e with created := v }) ?_
  refine .known rfl rfl ((text e.model).map fun v (e : Event) => { e with model := v }) ?_
  exact .known rfl rfl (choices.map fun v (e : Event) => { e with choices := v }) (.done rfl)

end AnswerGateway.Chat
