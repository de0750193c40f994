import AnswerGateway.Completion.Pump

/-!
The two ends of a stream of chunks. A sender that has sent the last chunk is gone, whether the
chunk was taken in or not; whoever would have to wait learns that instead.
-/

namespace AnswerGateway.Completion

inductive SenderAct where
  | content (text : String)
  | finish (tokenUsage : UInt32)
  | fail (message : String)
  /-- The sender goes without a last chunk. -/
  | close
  | look
  deriving DecidableEq, Repr

inductive SenderNews where
  | sent
  | closed
  /-- There is no room; the chunk was not sent. -/
  | full
  | gone
  | looked (consumerGone : Bool)
  deriving DecidableEq, Repr

inductive ConsumerNews (α : Type) where
  | item (a : α)
  | pending
  | closed
  | dropped
  deriving DecidableEq, Repr

def offerChunk (c : Chunk) (chunks : Channel Chunk) : SenderNews × Channel Chunk :=
  match chunks.offer c with
  | .accepted chunks => (.sent, chunks)
  | .full => (.full, chunks)
  | .closed => (.closed, chunks)

/-- Offers the last chunk; after it the sender is gone. -/
def offerLast (c : Chunk) (chunks : Channel Chunk) : SenderNews × Channel Chunk :=
  let (news, chunks) := offerChunk c chunks
  (news, chunks.dropSender)

/-- A sender that has gone learns only that. -/
def unlessGone (chunks : Channel Chunk) (act : Channel Chunk → SenderNews × Channel Chunk) :
    SenderNews × Channel Chunk :=
  if chunks.senderGone then (.gone, chunks) else act chunks

/-- Does what the sender wants. A sender may close more than once. -/
def SenderAct.apply (act : SenderAct) (chunks : Channel Chunk) : SenderNews × Channel Chunk :=
  match act with
  | .close => (.sent, chunks.dropSender)
  | .content text => unlessGone chunks (offerChunk (.ofContent text))
  | .finish tokenUsage => unlessGone chunks (offerLast (.finished tokenUsage))
  | .fail message => unlessGone chunks (offerLast (.failed message))
  | .look => unlessGone chunks fun chunks => (.looked chunks.receiverGone, chunks)

def receive {α : Type} (items : Channel α) : ConsumerNews α × Channel α :=
  if items.receiverGone then (.dropped, items)
  else
    match items.take with
    | .item a items => (.item a, items)
    | .empty => (.pending, items)
    | .ended => (.closed, items)

/-- A provider's answer that is being read: the pump and its channel. -/
structure Live where
  pump : Pump
  chunks : Channel Chunk
  deriving DecidableEq, Repr

namespace Live

def start (body : Body) (capacity : Nat) : Live := ⟨{ body }, .withCapacity capacity⟩

def settle (s : Live) : Live :=
  let (pump, chunks) := s.pump.run s.pump.stepBound s.chunks
  ⟨pump, chunks⟩

def drop (s : Live) : Live := settle { s with chunks := s.chunks.dropReceiver }

/-- Takes up to so many chunks, with the pump working in between; says too whether the stream has
ended. -/
def collect : Nat → Live → List Chunk × Bool × Live
  | 0, s => ([], false, s)
  | limit + 1, s =>
    let s := s.settle
    match receive s.chunks with
    | (.item c, chunks) =>
      let (more, ended, s) := collect limit { s with chunks }
      (c :: more, ended, s)
    | (.closed, chunks) => ([], true, { s with chunks })
    | (_, chunks) => ([], false, { s with chunks })

end Live

end AnswerGateway.Completion
