import AnswerGateway.Completion.Chunk
import AnswerGateway.Completion.Sse

/-!
From the reads of a provider's answer to its chunks. A `Reading` is the state between two reads; it
says which chunks each read adds. The chunks depend on the bytes and on how the answer ends, not on
how the bytes are cut into reads. After the chunk that ends the answer there are no more.
-/

namespace AnswerGateway.Completion

inductive Read where
  | bytes (bytes : List UInt8)
  | failed (message : String)
  | ended
  deriving DecidableEq, Repr

structure Reading where
  buffer : LineBuffer := {}
  /-- The number of tokens that the provider has last counted. -/
  total : UInt32 := 0
  /-- Whether the chunk that ends the answer has been given. -/
  complete : Bool := false
  deriving DecidableEq, Repr

namespace Reading

def line (r : Reading) : Line → List Chunk × Reading
  | .skip => ([], r)
  | .done => ([.finished r.total], { r with complete := true })
  | .error message => ([.failed message], { r with complete := true })
  | .data content _ total =>
    ((content.map Chunk.ofContent).toList, { r with total := total.getD r.total })

def lines (r : Reading) : List String → List Chunk × Reading
  | [] => ([], r)
  | l :: rest =>
    if r.complete then ([], r)
    else
      let (chunks, r) := r.line (.of l)
      let (more, r) := r.lines rest
      (chunks ++ more, r)

/-- Takes a line that the end of the body has left unfinished. Only a piece of the answer counts in
it. -/
def remainder (r : Reading) : List Chunk × Reading :=
  match r.buffer.finish.map Line.of with
  | some (.data content finished total) => r.line (.data content finished total)
  | _ => ([], r)

def read (r : Reading) : Read → List Chunk × Reading
  | .bytes bytes =>
    if r.complete then ([], r)
    else
      let (completed, buffer) := r.buffer.push bytes
      { r with buffer }.lines completed
  | .failed message =>
    if r.complete then ([], r)
    else ([.failed ("failed to read from upstream: " ++ message)], { r with complete := true })
  | .ended =>
    if r.complete then ([], r)
    else
      let (chunks, r) := r.remainder
      (chunks ++ [.finished r.total], { r with complete := true })

/-- Takes reads in order. -/
def reads (r : Reading) : List Read → List Chunk × Reading
  | [] => ([], r)
  | x :: rest =>
    let (chunks, r) := r.read x
    let (more, r) := r.reads rest
    (chunks ++ more, r)

end Reading

def chunksOf (reads : List Read) : List Chunk := (({} : Reading).reads reads).1

end AnswerGateway.Completion
