import AnswerGateway.Json.TextFormat
import AnswerGateway.Json.FromJson
import AnswerGateway.Json.Written

/-!
What is written to the cache and what a lookup finds, with the messages by which a cache service is
asked for both.
-/

namespace AnswerGateway.Cache

open Json Json.Format

structure Record where
  prompt : String
  response : String
  model : String
  /-- The number of tokens that the provider counted, zero when it did not say. -/
  tokenUsage : UInt32 := 0
  deriving DecidableEq, Repr

namespace Record

def format {D : Type → Type} [Format D] : D Record :=
  record "CacheRecord" { prompt := "", response := "", model := "" }
    [ required "prompt" text fun v r => { r with prompt := v },
      required "response" text fun v r => { r with response := v },
      required "model" text fun v r => { r with model := v },
      defaulted "token_usage" word32 fun v r => { r with tokenUsage := v } ]

open JsonText in
def write (r : Record) : List Char :=
  object (field "prompt" (quote r.prompt) ++ field "response" (quote r.response) ++
    field "model" (quote r.model) ++ field "token_usage" (natural r.tokenUsage.toNat))

def toJson (r : Record) : Json :=
  .obj [("prompt", .str r.prompt), ("response", .str r.response), ("model", .str r.model),
    ("token_usage", ofUInt32 r.tokenUsage)]

end Record

/-- What a lookup finds. The answer is empty when nothing is found. -/
structure LookupResult where
  hit : Bool
  answer : String := ""
  deriving DecidableEq, Repr

namespace LookupResult

def found (answer : String) : LookupResult := { hit := true, answer }

def miss : LookupResult := { hit := false }

def format {D : Type → Type} [Format D] : D LookupResult :=
  record "CacheLookupResult" { hit := false }
    [ required "hit" flag fun v r => { r with hit := v },
      defaulted "answer" text fun v r => { r with answer := v } ]

open JsonText in
def write (r : LookupResult) : List Char :=
  object (field "hit" (truth r.hit) ++ field "answer" (quote r.answer))

end LookupResult

structure LookupRequest where
  prompt : String
  model : String
  deriving DecidableEq, Repr

namespace LookupRequest

def format {D : Type → Type} [Format D] : D LookupRequest :=
  record "LookupRequest" { prompt := "", model := "" }
    [ required "prompt" text fun v r => { r with prompt := v },
      required "model" text fun v r => { r with model := v } ]

open JsonText in
def write (r : LookupRequest) : List Char :=
  object (field "prompt" (quote r.prompt) ++ field "model" (quote r.model))

def toJson (r : LookupRequest) : Json := .obj [("prompt", .str r.prompt), ("model", .str r.model)]

end LookupRequest

structure RecordResponse where
  accepted : Bool
  deriving DecidableEq, Repr

namespace RecordResponse

def format {D : Type → Type} [Format D] : D RecordResponse :=
  record "RecordResponse" { accepted := false }
    [required "accepted" flag fun v r => { r with accepted := v }]

open JsonText in
def write (r : RecordResponse) : List Char := object (field "accepted" (truth r.accepted))

end RecordResponse

end AnswerGateway.Cache
