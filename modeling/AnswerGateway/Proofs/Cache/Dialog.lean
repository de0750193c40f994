import AnswerGateway.Proofs.Cache.Link

/-!
Whoever asks a cache any number of times, and goes on with each answer as it likes. Held with a
remote cache, such a dialog is the dialog with the cache behind the service: every question is put
to it once, and every answer is told as it was given.
-/

namespace AnswerGateway.Cache

open Http

/-- A computation as far as its next question to a cache. -/
inductive Dialog (α : Type) where
  | done (a : α)
  | asking (ask : Ask) (next : ask.Answer → Dialog α)

namespace Dialog

variable {α β : Type}

def bind : Dialog α → (α → Dialog β) → Dialog β
  | .done a, f => f a
  | .asking ask next, f => .asking ask fun answer => (next answer).bind f

instance : Monad Dialog where
  pure := .done
  bind := Dialog.bind

instance : LawfulMonad Dialog := by
  refine .mk' Dialog ?_ (fun _ _ => rfl) ?_
  · intro α x
    induction x with
    | done a => rfl
    | asking ask next ih => exact congrArg (Dialog.asking ask) (funext ih)
  · intro α β γ x f g
    induction x with
    | done a => rfl
    | asking ask next ih => exact congrArg (Dialog.asking ask) (funext ih)

/-- Every question that can be asked is of a certain kind. -/
def All (P : Ask → Prop) : Dialog α → Prop
  | .done _ => True
  | .asking ask next => P ask ∧ ∀ answer, (next answer).All P

variable {m : Type → Type} [Monad m]

/-- The dialog with a cache. -/
def run (put : (ask : Ask) → m ask.Answer) : Dialog α → m α
  | .done a => return a
  | .asking ask next => do
    let answer ← put ask
    (next answer).run put

theorem run_congr {P : Ask → Prop} {put put' : (ask : Ask) → m ask.Answer}
    (same : ∀ ask, P ask → put ask = put' ask) {p : Dialog α} (all : p.All P) :
    p.run put = p.run put' := by
  induction p with
  | done a => rfl
  | asking ask next ih =>
      obtain ⟨first, rest⟩ := all
      have later : (fun answer => (next answer).run put) = fun answer => (next answer).run put' :=
        funext fun answer => ih answer (rest answer)
      rw [run, run, same ask first, later]

end Dialog

namespace Link

variable {m : Type → Type} [Monad m] {σ : Type} (link : Link)

/-- A call over the connection. The bytes of the reply come in pieces. -/
def call (cut : List UInt8 → List (List UInt8)) (serve : Request → m (Reply (Content σ)))
    (ask : Ask) : m ask.Answer :=
  match link.client.prepare (ask.post link.remote) with
  | .error f => return ask.receive (.error (link.client.sendFault f))
  | .ok o => do
    let reply ← serve (o.request link.added)
    let delivery := { status := reply.status, pieces := cut reply.content.bytes }
    return ask.receive (link.client.document delivery)

/-- The same question put to the cache itself, inside the service: the request gets an id and is
counted. -/
def through (b : Backend m σ) (ask : Ask) : m ask.Answer := do
  let _ ← b.freshId
  let answer ← ask.put b
  b.count (.request "POST" ask.endpoint.path (ask.reply answer : Reply (Content σ)).status)
  return ask.told link.client answer

variable [LawfulMonad m] (b : Backend m σ) (page : Option NumbersPage)
  {cut : List UInt8 → List (List UInt8)} {link : Link}

theorem call_eq_through (reaches : link.Reaches) (whole : ∀ bytes, (cut bytes).flatten = bytes)
    {ask : Ask} (fits : link.Carries ask) :
    link.call cut (cacheService b page).respond ask = link.through b ask := by
  obtain ⟨o, prepared, asks⟩ := reaches.prepare ask
  have short := fits.length_body asks
  have told (id : String) (answer : ask.Answer) :
      let reply : Reply (Content σ) := (ask.reply answer).withHeader "x-request-id" id
      ask.receive (link.client.document
        { status := reply.status, pieces := cut reply.content.bytes }) =
        ask.told link.client answer :=
    ask.receive_reply (σ := σ) link.client answer rfl rfl (whole _)
  simp only [call, prepared, asks.respond_eq b page, asks.handle_of_fits b short, through,
    bind_assoc, bind_map_left, pure_bind]
  refine bind_congr fun id => bind_congr fun answer => bind_congr fun counted => ?_
  exact congrArg pure (told id answer)

end Link

end AnswerGateway.Cache
