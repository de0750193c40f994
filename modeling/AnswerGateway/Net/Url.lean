import AnswerGateway.Net.Host

/-!
Addresses as a client reads them before it sends anything. An address of the web is put into one
form: small letters in the scheme and the host, no port that the scheme implies, no dots in the
path, and percent signs for what may not stand for itself. An address of another kind has a path
that means nothing here, unless two slashes say that a host comes first.
-/

namespace AnswerGateway.Net

inductive UrlPath where
  /-- A text without parts. -/
  | opaqueText (text : String)
  | segments (segments : List String)
  deriving DecidableEq, Repr

structure Url where
  scheme : String
  username : String := ""
  password : Option String := none
  /-- Absent if the address has no place for a host; a name may be empty outside the web. -/
  host : Option Host := none
  port : Option Nat := none
  path : UrlPath
  query : Option String := none
  fragment : Option String := none
  deriving DecidableEq, Repr

namespace Url

inductive Kind where
  /-- There is always a host; the port is known if it is not given. -/
  | web (port : Nat)
  | file
  | other
  deriving DecidableEq, Repr

def kindOf : String → Kind
  | "http" => .web 80
  | "https" => .web 443
  | "ws" => .web 80
  | "wss" => .web 443
  | "ftp" => .web 21
  | "file" => .file
  | _ => .other

def Kind.isSpecial : Kind → Bool
  | .other => false
  | _ => true

/-- The port of addresses that name none. -/
def Kind.port? : Kind → Option Nat
  | .web port => some port
  | _ => none

/-- Whether a character is visible, and not one of those given. -/
def standsBut (others : String) (c : Char) : Bool :=
  0x20 ≤ c.toNat && c.toNat < 0x7F && !others.toList.contains c

def standsInFragment : Char → Bool := standsBut " \"<>\x60"
def standsInPath : Char → Bool := standsBut " \"<>\x60#?\x7b\x7d"
def standsInUserinfo : Char → Bool := standsBut " \"<>\x60#?\x7b\x7d/:;=@[\\]^|"
def standsInQuery : Char → Bool := standsBut " \"#<>"
def standsInWebQuery : Char → Bool := standsBut " \"#<>'"
def standsInOpaque : Char → Bool := standsBut ""

/-! ### Parts -/

/-- Whether a character ends the part of an address that names the host. -/
def endsAuthority (kind : Kind) (c : Char) : Bool :=
  c = '/' || c = '?' || c = '#' || (kind.isSpecial && c = '\\')

def isSlash (kind : Kind) (c : Char) : Bool := c = '/' || (kind.isSpecial && c = '\\')

def splitUser (cs : List Char) : Option (List Char) × List Char :=
  match cs.reverse.dropWhile (· ≠ '@') with
  | [] => (none, cs)
  | _ :: front => (some front.reverse, (cs.reverse.takeWhile (· ≠ '@')).reverse)

/-- Cuts at the colon between host and port; a colon within brackets belongs to the host. -/
def splitPort : Bool → List Char → List Char × Option (List Char)
  | _, [] => ([], none)
  | inside, c :: rest =>
    if c = ':' && !inside then ([], some rest)
    else
      let (host, port) := splitPort (c = '[' || (inside && c ≠ ']')) rest
      (c :: host, port)

/-- Reads a port. None given, or the one that the scheme implies, is no port. -/
def port? (kind : Kind) (cs : List Char) : Option (Option Nat) :=
  if cs.all Char.isDigit then
    let n := cs.foldl (fun n c => n * 10 + (c.toNat - '0'.toNat)) 0
    if 65535 < n then none
    else if cs.isEmpty || kind.port? = some n then some none
    else some (some n)
  else none

/-- Whether a text is so many dots. A dot may also be written by its number. -/
def areDots : Nat → List Char → Bool
  | 0, cs => cs.isEmpty
  | n + 1, '.' :: rest => areDots n rest
  | n + 1, '%' :: '2' :: e :: rest => (e = 'e' || e = 'E') && areDots n rest
  | _ + 1, _ => false

/-- How a segment of a path is written that stays where it is, or goes up. -/
def isDots (n : Nat) (segment : String) : Bool := areDots n segment.toList

def splitSegments (kind : Kind) : List Char → List (List Char)
  | [] => [[]]
  | c :: rest =>
    match splitSegments kind rest with
    | [] => [[c]]
    | s :: ss => if isSlash kind c then [] :: s :: ss else (c :: s) :: ss

/-- Follows the segments of a path one by one; dots leave no trace but a slash at the end. -/
def follow (done : List String) : List String → List String
  | [] => done
  | s :: rest =>
    let tail := if rest.isEmpty then [""] else []
    if isDots 2 s then follow (done.dropLast ++ tail) rest
    else if isDots 1 s then follow (done ++ tail) rest
    else follow (done ++ [s]) rest

def pathOf (kind : Kind) (cs : List Char) : UrlPath :=
  let segments (cs : List Char) :=
    follow [] ((splitSegments kind cs).map (Text.percentEncode standsInPath))
  match cs with
  | [] => .segments (if kind.isSpecial then [""] else [])
  | c :: rest => .segments (if isSlash kind c then segments rest else segments cs)

/-- An address without its query and fragment, and these. -/
def splitTail (kind : Kind) (cs : List Char) : List Char × Option String × Option String :=
  let before := cs.takeWhile (· ≠ '#')
  let fragment := match cs.dropWhile (· ≠ '#') with
    | [] => none
    | _ :: f => some (Text.percentEncode standsInFragment f)
  let query := match before.dropWhile (· ≠ '?') with
    | [] => none
    | _ :: q =>
      some (Text.percentEncode (if kind.isSpecial then standsInWebQuery else standsInQuery) q)
  (before.takeWhile (· ≠ '?'), query, fragment)

/-! ### Reading -/

def userOf : Option (List Char) → String × Option String
  | none => ("", none)
  | some cs =>
    let encode := Text.percentEncode standsInUserinfo
    (encode (cs.takeWhile (· ≠ ':')),
      match cs.dropWhile (· ≠ ':') with
      | _ :: c :: password => some (encode (c :: password))
      | _ => none)

def hostOf? (kind : Kind) (cs : List Char) : Option Host :=
  match kind with
  | .web _ => if cs.isEmpty then none else Host.parse? cs
  | .file => if cs.isEmpty then some (.name "") else do
    let host ← Host.parse? cs
    return if host = .name "localhost" then .name "" else host
  | .other => Host.parseOpaque? cs

def withHost? (scheme : String) (kind : Kind) (cs : List Char) : Option Url := do
  let ends := endsAuthority kind
  let authority := cs.takeWhile (!ends ·)
  let (user, place) :=
    if kind = .file then (none, authority) else splitUser authority
  if user.isSome && place.isEmpty then none
  let (hostText, portText) := if kind = .file then (place, none) else splitPort false place
  let host ← hostOf? kind hostText
  if hostText.isEmpty && portText.isSome then none
  let port ← port? kind (portText.getD [])
  let (path, query, fragment) := splitTail kind (cs.dropWhile (!ends ·))
  let (username, password) := userOf user
  return {
    scheme, username, password, host := some host, port, path := pathOf kind path, query, fragment }

def ofRest? (scheme : String) (cs : List Char) : Option Url :=
  let kind := kindOf scheme
  let (path, query, fragment) := splitTail kind cs
  match kind with
  | .web _ => withHost? scheme kind (cs.dropWhile (isSlash kind))
  | .file =>
    match cs with
    | a :: b :: rest =>
      if isSlash kind a && isSlash kind b then withHost? scheme kind rest
      else some { scheme, host := some (.name ""), path := pathOf kind path, query, fragment }
    | _ => some { scheme, host := some (.name ""), path := pathOf kind path, query, fragment }
  | .other =>
    match cs with
    | '/' :: '/' :: rest => withHost? scheme kind rest
    | '/' :: _ => some { scheme, path := pathOf kind path, query, fragment }
    | _ =>
      some { scheme, path := .opaqueText (Text.percentEncode standsInOpaque path), query, fragment }

/-- Whether a character may follow the first one of a scheme. -/
def isSchemeChar (c : Char) : Bool := c.isAlphanum || c = '+' || c = '-' || c = '.'

/-- The text without what is ignored: blanks and controls around it, tabs and line ends in it. -/
def cleaned (s : String) : List Char :=
  let isEdge (c : Char) := c.toNat ≤ 0x20
  let inner := (s.toList.dropWhile isEdge).reverse.dropWhile isEdge
  inner.reverse.filter fun c => c ≠ '\t' && c ≠ '\n' && c ≠ '\r'

def parse? (s : String) : Option Url :=
  let cs := cleaned s
  let scheme := cs.takeWhile isSchemeChar
  match scheme, cs.dropWhile isSchemeChar with
  | c :: _, ':' :: rest =>
    if c.isAlpha then ofRest? (String.ofList (scheme.map Char.toLower)) rest else none
  | _, _ => none

/-! ### Writing -/

def hasHost (u : Url) : Bool :=
  match u.host with
  | none => false
  | some (.name n) => n ≠ ""
  | some _ => true

def userText (u : Url) : String :=
  if u.username = "" && u.password.isNone then ""
  else u.username ++ (u.password.elim "" (":" ++ ·)) ++ "@"

def UrlPath.text : UrlPath → String
  | .opaqueText t => t
  | .segments ss => String.join (ss.map ("/" ++ ·))

/-- The address in its one form. A path that could be taken for a host is kept from it by a dot. -/
def text (u : Url) : String :=
  let place := match u.host, u.path with
    | some host, _ =>
      "//" ++ u.userText ++ host.text ++ u.port.elim "" fun p => ":" ++ toString p
    | none, .segments ("" :: _ :: _) => "/."
    | none, _ => ""
  u.scheme ++ ":" ++ place ++ UrlPath.text u.path ++ u.query.elim "" ("?" ++ ·) ++
    u.fragment.elim "" ("#" ++ ·)

end Url

end AnswerGateway.Net
