import AnswerGateway.Json.TextFormat
import AnswerGateway.Json.FromJson
import AnswerGateway.Json.Written

/-!
Chat messages. The content of a message is a text or a list of parts, each of them a text or the
address of an image; only the texts reach the prompt.
-/

namespace AnswerGateway.Chat

open Json Json.Format

inductive Role where
  | system | developer | user | assistant | tool | function
  deriving DecidableEq, Repr

namespace Role

def name : Role → String
  | .system => "system"
  | .developer => "developer"
  | .user => "user"
  | .assistant => "assistant"
  | .tool => "tool"
  | .function => "function"

def all : List Role := [.system, .developer, .user, .assistant, .tool, .function]

def format {D : Type → Type} [Format D] : D Role :=
  choice "ChatMessageRole" (all.map fun r => (r.name, r))

end Role

structure ImageUrl where
  url : String
  detail : Option String := none
  deriving DecidableEq, Repr

namespace ImageUrl

def format {D : Type → Type} [Format D] : D ImageUrl :=
  record "ImageUrl" { url := "" }
    [ required "url" text fun v i => { i with url := v },
      nullable "detail" text fun v i => { i with detail := v } ]

open JsonText in
def write (i : ImageUrl) : List Char :=
  object (field "url" (quote i.url) ++ fieldIfSome "detail" quote i.detail)

end ImageUrl

inductive ContentPart where
  | text (text : String)
  | imageUrl (image : ImageUrl)
  deriving DecidableEq, Repr

namespace ContentPart

inductive Kind where
  | text | imageUrl
  deriving DecidableEq, Repr

def Kind.name : Kind → String
  | .text => "text"
  | .imageUrl => "image_url"

def Kind.ofJson? : Json → Option Kind
  | .str "text" => some .text
  | .str "image_url" => some .imageUrl
  | .int i => if i.val = 0 then some .text else if i.val = 1 then some .imageUrl else none
  | _ => none

def ofBody? (body : Json) : Kind → Option ContentPart
  | .text =>
    (toRecord "ContentPart" "" [required "text" Format.text fun v _ => v] body).toOption.map .text
  | .imageUrl =>
    (toRecord "ContentPart" { url := "" } [required "image_url" ImageUrl.format fun v _ => v]
      body).toOption.map .imageUrl

/-- Reads a part: an object with its kind in the field `type`, or a list that begins with it. -/
def ofJson? : Json → Option ContentPart
  | .obj fields =>
    match fields.partition (·.1 == "type") with
    | ([(_, kind)], body) => (Kind.ofJson? kind).bind (ofBody? (.obj body))
    | _ => none
  | .arr (kind :: body) => (Kind.ofJson? kind).bind (ofBody? (.arr body))
  | _ => none

open JsonText in
def write : ContentPart → List Char
  | .text s => object (field "type" (quote Kind.text.name) ++ field "text" (quote s))
  | .imageUrl i =>
    object (field "type" (quote Kind.imageUrl.name) ++ field "image_url" i.write)

def text? : ContentPart → Option String
  | .text s => some s
  | .imageUrl _ => none

end ContentPart

inductive Content where
  | text (text : String)
  | parts (parts : List ContentPart)
  deriving DecidableEq, Repr

namespace Content

def ofJson? : Json → Option Content
  | .str s => some (.text s)
  | .arr items => (items.mapM ContentPart.ofJson?).map .parts
  | _ => none

def reader : Reader Content := readUntagged "MessageContent" ofJson?

open JsonText in
def write : Content → List Char
  | .text s => quote s
  | .parts ps => JsonText.list (ps.map ContentPart.write)

/-- The text of a content: its text parts, one to a line. -/
def toText : Content → String
  | .text s => s
  | .parts ps => "\n".intercalate (ps.filterMap ContentPart.text?)

end Content

structure Message where
  role : Role
  content : Option Content := none
  name : Option String := none
  deriving DecidableEq, Repr

namespace Message

def reader : Reader Message :=
  record "ChatMessage" { role := .user }
    [ required "role" Role.format fun v m => { m with role := v },
      nullableDefaulted "content" Content.reader fun v m => { m with content := v },
      nullableDefaulted "name" text fun v m => { m with name := v } ]

open JsonText in
def write (m : Message) : List Char :=
  object (field "role" (quote m.role.name) ++ fieldIfSome "content" Content.write m.content ++
    fieldIfSome "name" quote m.name)

/-- The text of a message; empty when it has none. -/
def toText (m : Message) : String := (m.content.map Content.toText).getD ""

end Message

end AnswerGateway.Chat
