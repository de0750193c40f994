import AnswerGateway.Text.Utf8

/-!
Identifiers of resources as a connection reads them: nothing in them is mended, and what may not
stand in them makes them unusable. An identifier is a path alone, a host alone, or a scheme with a
host and perhaps a path. The bytes of its UTF-8 form are checked, and only the first fault is told.
-/

namespace AnswerGateway.Net

inductive UriFault where
  | empty
  | tooLong
  | schemeTooLong
  /-- A byte that may not stand in it, or not there. -/
  | badByte
  | badAuthority
  /-- A host is missing, or something follows it where there is no scheme. -/
  | badFormat
  deriving DecidableEq, Repr

def UriFault.message : UriFault → String
  | .empty => "empty string"
  | .tooLong => "uri too long"
  | .schemeTooLong => "scheme too long"
  | .badByte => "invalid uri character"
  | .badAuthority => "invalid authority"
  | .badFormat => "invalid format"

structure Uri where
  scheme : Option String := none
  authority : List UInt8 := []
  target : List UInt8 := []
  deriving DecidableEq, Repr

namespace Uri

def code (c : Char) : UInt8 := UInt8.ofNat c.toNat

def isAscii (p : Char → Bool) (b : UInt8) : Bool := b < 0x80 && p (Char.ofNat b.toNat)

/-- Whether a byte may stand in a host. A percent sign may stand in the user before it. -/
def isHostByte : UInt8 → Bool :=
  isAscii fun c => c.isAlphanum || "!#$&'()*+,-./:;=?@[]_~".toList.contains c

def isPathByte (b : UInt8) : Bool :=
  0x7F ≤ b || isAscii (fun c => '!' ≤ c && !"#<>?\x60".toList.contains c) b

def isQueryByte (b : UInt8) : Bool :=
  0x7F ≤ b || isAscii (fun c => '!' ≤ c && !"\"#<>".toList.contains c) b

def isSchemeByte : UInt8 → Bool :=
  isAscii fun c => c.isAlphanum || c = '+' || c = '-' || c = '.'

/-- What has been seen of a host: the colons that may come before a port, brackets, a percent sign
outside of the user, and whether the last byte ended the user. -/
structure HostScan where
  colons : Nat := 0
  opened : Bool := false
  closed : Bool := false
  percent : Bool := false
  afterUser : Bool := false

def HostScan.pass (x : HostScan) (b : UInt8) : Except UriFault HostScan :=
  let y := { x with afterUser := false }
  if b = code ':' then
    if 8 ≤ x.colons then .error .badAuthority else .ok { y with colons := x.colons + 1 }
  else if b = code '[' then
    if x.percent || x.opened then .error .badAuthority else .ok { y with opened := true }
  else if b = code ']' then
    if !x.opened || x.closed then .error .badAuthority
    else .ok { y with closed := true, colons := 0, percent := false }
  else if b = code '@' then .ok { y with afterUser := true, colons := 0, percent := false }
  else if b = code '%' then .ok { y with percent := true }
  else if isHostByte b then .ok y
  else .error .badByte

def endsHost (b : UInt8) : Bool := b = code '/' || b = code '?' || b = code '#'

/-- The host at the start of an identifier, and the rest. It may be empty. -/
def takeHost (bs : List UInt8) : Except UriFault (List UInt8 × List UInt8) := do
  let host := bs.takeWhile (!endsHost ·)
  let x ← host.foldlM HostScan.pass {}
  if x.opened != x.closed || 1 < x.colons || x.afterUser || x.percent then
    throw .badAuthority
  return (host, bs.dropWhile (!endsHost ·))

/-- A path and a query; a fragment is left out. -/
def takeTarget (bs : List UInt8) : Except UriFault (List UInt8) := do
  let isMark (b : UInt8) := b = code '?' || b = code '#'
  let path := bs.takeWhile (!isMark ·)
  let query := match bs.dropWhile (!isMark ·) with
    | b :: q => if b = code '?' then b :: q.takeWhile (· ≠ code '#') else []
    | [] => []
  if path.all isPathByte && query.all isQueryByte then return path ++ query
  throw .badByte

def schemeLimit : Nat := 64

def lengthLimit : Nat := 65534

/-- The scheme at the start of an identifier, and what follows the slashes behind it. -/
def takeScheme (bs : List UInt8) : Except UriFault (Option String × List UInt8) :=
  let scheme := bs.takeWhile isSchemeByte
  match bs.dropWhile isSchemeByte with
  | a :: b :: c :: rest =>
    if a = code ':' && b = code '/' && c = code '/' && 3 < bs.length then
      if schemeLimit < scheme.length then .error .schemeTooLong
      else .ok (some (Text.decodeLossy scheme), rest)
    else .ok (none, bs)
  | _ => .ok (none, bs)

/-- Reads an identifier that does not start with a slash. -/
def parseFull (bs : List UInt8) : Except UriFault Uri := do
  let (scheme, rest) ← takeScheme bs
  if scheme.isSome && rest.isEmpty then throw .empty
  let (authority, rest) ← takeHost rest
  if scheme.isNone then
    if rest.isEmpty then return { authority }
    throw (if bs.length = 1 then .badByte else .badFormat)
  if authority.isEmpty then throw .badFormat
  return { scheme, authority, target := ← takeTarget rest }

def parse (s : String) : Except UriFault Uri :=
  let bs := Text.utf8 s
  if lengthLimit < bs.length then .error .tooLong
  else
    match bs with
    | [] => .error .empty
    | b :: rest =>
      if b = code '/' then do return { target := ← takeTarget bs }
      else if b = code '*' && rest.isEmpty then .ok { target := bs }
      else parseFull bs

end Uri

end AnswerGateway.Net
