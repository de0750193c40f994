import AnswerGateway.Store.Memory

/-!
Making sure that a collection exists. Looking and creating are two steps, so another instance may
create the collection in between; a failed creation is therefore followed by a second look, and
counts only if the collection is still missing. The procedure is a machine that says which call to
make next, so that its calls can be interleaved with those of others.
-/

namespace AnswerGateway.Store

/-- Where an instance stands. -/
inductive Ensure where
  | looking
  | creating
  /-- Creation failed; it looks again. -/
  | recheckingAfter (failure : Fault)
  /-- It is done: whether it created the collection, or what failed. -/
  | finished (result : Except Fault Bool)
  deriving Repr

namespace Ensure

inductive Call where
  | look | create
  deriving DecidableEq, Repr

def Call.name : Call → String
  | .look => "exists"
  | .create => "create"

def call? : Ensure → Option Call
  | .looking => some .look
  | .creating => some .create
  | .recheckingAfter _ => some .look
  | .finished _ => none

def looked (answer : Except Fault Bool) : Ensure → Ensure
  | .looking =>
    match answer with
    | .ok true => .finished (.ok false)
    | .ok false => .creating
    | .error f => .finished (.error f)
  | .recheckingAfter failure =>
    match answer with
    | .ok true => .finished (.ok false)
    | .ok false => .finished (.error failure)
    | .error f => .finished (.error f)
  | other => other

def created (answer : Except Fault Unit) : Ensure → Ensure
  | .creating =>
    match answer with
    | .ok () => .finished (.ok true)
    | .error f => .recheckingAfter f
  | other => other

structure Calls (m : Type → Type) where
  look : String → m (Except Fault Bool)
  create : CollectionSpec → m (Except Fault Unit)

def step {m : Type → Type} [Monad m] (calls : Calls m) (spec : CollectionSpec) (e : Ensure) :
    m Ensure :=
  match e.call? with
  | some .look => do return e.looked (← calls.look spec.name)
  | some .create => do return e.created (← calls.create spec)
  | none => pure e

def run {m : Type → Type} [Monad m] (calls : Calls m) (spec : CollectionSpec) :
    m (Except Fault Bool) := do
  let e ← step calls spec .looking
  let e ← step calls spec e
  let e ← step calls spec e
  match e with
  | .finished result => return result
  | _ => return .ok false

end Ensure

namespace Memory

def calls : Ensure.Calls (StateM Memory) where
  look name := do return .ok ((← get).holds name)
  create spec := modifyGet fun m => m.create spec

/-- Makes sure that a collection exists; says whether it was created. -/
def ensure (m : Memory) (spec : CollectionSpec) : Except Fault Bool × Memory :=
  (Ensure.run calls spec).run m

end Memory

end AnswerGateway.Store
