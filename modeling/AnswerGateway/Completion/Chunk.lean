/-!
The pieces in which a provider's answer arrives. A chunk may carry content; a chunk that is `done`
ends the answer and carries its number of tokens; a chunk with an error ends it early.
-/

namespace AnswerGateway

structure Chunk where
  content : String := ""
  done : Bool := false
  tokenUsage : UInt32 := 0
  error : Option String := none
  deriving DecidableEq, Repr

namespace Chunk

def ofContent (content : String) : Chunk := { content }

def finished (tokenUsage : UInt32) : Chunk := { done := true, tokenUsage }

def failed (message : String) : Chunk := { error := some message }

def isError (c : Chunk) : Bool := c.error.isSome

def isTerminal (c : Chunk) : Bool := c.done || c.isError

end Chunk

end AnswerGateway
