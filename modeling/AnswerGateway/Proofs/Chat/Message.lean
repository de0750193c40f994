import AnswerGateway.Chat.Message
import AnswerGateway.Proofs.Json.Document

/-!
Chat messages are read back as they are written. A content is read from a document of any kind, so
it is shown first which document a content is written as, and then that the document tells the
content again: a text is told from a list by its kind, and a part by the name in its field `type`.
-/

namespace AnswerGateway.Chat

open Json

/-- The document that an image address is written as. -/
def ImageUrl.json (i : ImageUrl) : Json :=
  .obj (("url", .str i.url) :: (i.detail.map fun detail => ("detail", Json.str detail)).toList)

/-- The document that a part is written as. -/
def ContentPart.json : ContentPart → Json
  | .text s => .obj [("type", .str Kind.text.name), ("text", .str s)]
  | .imageUrl i => .obj [("type", .str Kind.imageUrl.name), ("image_url", i.json)]

/-- The document that a content is written as. -/
def Content.json : Content → Json
  | .text s => .str s
  | .parts ps => .arr (ps.map ContentPart.json)

theorem ImageUrl.chars_json (i : ImageUrl) : i.json.chars = i.write := by
  obtain ⟨url, detail⟩ := i
  cases detail <;> rfl

theorem ContentPart.chars_json (p : ContentPart) : p.json.chars = p.write := by
  cases p with
  | text s => rfl
  | imageUrl i =>
      rw [write, ← i.chars_json]
      rfl

theorem Content.chars_json (c : Content) : c.json.chars = c.write := by
  cases c with
  | text s => rfl
  | parts ps =>
      rw [json, Json.chars, charsOfItems_eq, List.map_map, write]
      congr 1
      exact List.map_congr_left fun p _ => p.chars_json

theorem ImageUrl.nested_json (i : ImageUrl) : Nested 1 i.json := by
  obtain ⟨url, detail⟩ := i
  refine .obj (List.forall_mem_cons.mpr ⟨.leaf (.str url), ?_⟩)
  cases detail with
  | none => exact fun _ member => nomatch member
  | some text => exact List.forall_mem_singleton.mpr (.leaf (.str text))

theorem ContentPart.nested_json (p : ContentPart) : Nested 2 p.json := by
  cases p with
  | text s =>
      refine .obj (List.forall_mem_cons.mpr ⟨.leaf (.str _), List.forall_mem_singleton.mpr ?_⟩)
      exact .leaf (.str s)
  | imageUrl i =>
      refine .obj (List.forall_mem_cons.mpr ⟨.leaf (.str _), List.forall_mem_singleton.mpr ?_⟩)
      exact i.nested_json

theorem Content.nested_json (c : Content) : Nested 3 c.json := by
  cases c with
  | text s => exact .leaf (.str s)
  | parts ps =>
      refine .arr fun j member => ?_
      obtain ⟨p, -, rfl⟩ := List.mem_map.mp member
      exact p.nested_json

theorem ContentPart.ofJson?_json (p : ContentPart) : ofJson? p.json = some p := by
  cases p with
  | text s => rfl
  | imageUrl i =>
      obtain ⟨url, detail⟩ := i
      cases detail <;> rfl

theorem Content.ofJson?_json (c : Content) : ofJson? c.json = some c := by
  cases c with
  | text s => rfl
  | parts ps =>
      have each : (ps.map ContentPart.json).mapM ContentPart.ofJson? = some ps := by
        induction ps with
        | nil => rfl
        | cons p rest ih => simp [ContentPart.ofJson?_json, ih]
      simp [json, ofJson?, each]

theorem Content.reads_write (c : Content) {depth : Nat} (deep : 3 < depth) :
    Reads (Content.reader depth) c.write c := by
  rw [← c.chars_json]
  exact (c.nested_json.reads deep).untagged c.ofJson?_json

theorem Role.reads_name (r : Role) (depth : Nat) :
    Reads ((Role.format : Reader Role) depth) (JsonText.quote r.name) r := by
  refine reads_readChoice ?_ depth
  cases r <;> rfl

theorem Message.reads_write (m : Message) {depth : Nat} (deep : 4 < depth) :
    Reads (Message.reader depth) m.write m := by
  obtain ⟨role, content, name⟩ := m
  have ofRole := (role.reads_name (depth - 1)).map fun v (m : Message) => { m with role := v }
  have ofContent (c : Content) :
      Reads (readOptional Content.reader (depth - 1)) c.write (some c) := by
    refine reads_readOptional_some (c.reads_write (by omega)) ?_
    cases c with
    | text => exact (show some '"' ≠ some 'n' by decide)
    | parts => exact (show some '[' ≠ some 'n' by decide)
  have withContent (c : Content) :=
    (ofContent c).map fun v (m : Message) => { m with content := v }
  have withName (text : String) :=
    (reads_nullable_text text (depth - 1)).map fun v (m : Message) => { m with name := v }
  refine reads_readRecord (by omega) (.known rfl rfl ofRole ?_)
  cases content with
  | none =>
      cases name with
      | none => exact .done rfl
      | some text => exact .known rfl rfl (withName text) (.done rfl)
  | some c =>
      refine .known rfl rfl (withContent c) ?_
      cases name with
      | none => exact .done rfl
      | some text => exact .known rfl rfl (withName text) (.done rfl)

end AnswerGateway.Chat
