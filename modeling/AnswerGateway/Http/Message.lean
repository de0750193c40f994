/-!
Requests and replies. The values of a request's headers are bytes; only those that are visible text
can be used. Names of headers are compared without regard to case.
-/

namespace AnswerGateway.Http

structure Request where
  method : String
  path : String
  headers : List (String × List UInt8) := []
  body : List UInt8 := []
  deriving DecidableEq, Repr

def smallName (name : String) : String := String.ofList (name.toList.map Char.toLower)

/-- Whether a byte of a header stands for a visible character, a space or a tab. -/
def isVisible (b : UInt8) : Bool := (32 ≤ b && b < 127) || b == 9

namespace Request

/-- The first header of that name. -/
def header? (r : Request) (name : String) : Option (List UInt8) :=
  (r.headers.find? fun h => smallName h.1 == name).map Prod.snd

/-- The first header of that name, if it is visible text. -/
def headerText? (r : Request) (name : String) : Option String := do
  let bytes ← r.header? name
  if bytes.all isVisible then some (String.ofList (bytes.map fun b => Char.ofNat b.toNat)) else none

end Request

structure Reply (β : Type) where
  status : Nat
  headers : List (String × String) := []
  content : β
  deriving Repr

namespace Reply

variable {β γ : Type}

def withHeader (name value : String) (r : Reply β) : Reply β :=
  { r with headers := r.headers ++ [(name, value)] }

def withContent (content : γ) (r : Reply β) : Reply γ := ⟨r.status, r.headers, content⟩

end Reply

/-- The path in the address of a request: what stands before a query or a fragment, behind the host
if there is one. -/
def pathOfAddress (address : String) : String :=
  let cs := address.toList.takeWhile fun c => c ≠ '?' && c ≠ '#'
  let afterHost (cs : List Char) : String :=
    match cs.dropWhile (· ≠ '/') with
    | [] => "/"
    | path => String.ofList path
  match cs with
  | '/' :: _ => String.ofList cs
  | _ =>
    match cs.dropWhile (· ≠ ':') with
    | ':' :: '/' :: '/' :: rest => afterHost rest
    | _ => String.ofList cs

end AnswerGateway.Http
