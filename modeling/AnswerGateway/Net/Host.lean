import AnswerGateway.Net.Ip
import AnswerGateway.Net.Punycode
import AnswerGateway.Text.Hidden
import AnswerGateway.Text.Percent
import AnswerGateway.Text.Small

/-!
Hosts as they are named in addresses. A name is put into small letters and, where it is not ASCII,
into Punycode; a name whose last part is a number has to be an address of four bytes, whose parts
may be decimal, octal or hexadecimal.
-/

namespace AnswerGateway.Net

inductive Host where
  | name (ascii : String)
  | v4 (address : IPv4)
  | v6 (address : IPv6)
  deriving DecidableEq, Repr

namespace Host

def text : Host → String
  | .name n => n
  | .v4 x => x.text
  | .v6 x => "[" ++ x.hexText ++ "]"

def labels : List Char → List (List Char)
  | [] => [[]]
  | c :: rest =>
    match labels rest with
    | [] => [[c]]
    | l :: ls => if c = '.' then [] :: l :: ls else (c :: l) :: ls

def isIgnored (c : Char) : Bool :=
  let n := c.toNat
  n = 0xAD || n = 0x200B || n = 0x2060 || n = 0xFEFF || (0xFE00 ≤ n && n ≤ 0xFE0F)

def mapped (c : Char) : List Char :=
  let n := c.toNat
  if isIgnored c then []
  else if n = 0x3002 || n = 0xFF0E || n = 0xFF61 then ['.']
  else if 0xFF01 ≤ n && n ≤ 0xFF5E then [(Char.ofNat (n - 0xFEE0)).toLower]
  else if n = 0x1E9E then ['s', 's']
  else Text.smallChars c

/-- Whether a name may not hold a character. -/
def isForbidden (c : Char) : Bool :=
  c.toNat < 0x21 || c.toNat = 0x7F || "#/:<>?@[\\]^|%".toList.contains c ||
    (0x80 ≤ c.toNat && (Text.isHidden c || c = Text.replacement))

def asciiLabel? (label : List Char) : Option (List Char) :=
  if label.all (·.toNat < 0x80) then
    if label = ['x', 'n', '-', '-'] then none else some label
  else some (['x', 'n', '-', '-'] ++ Punycode.encode label)

def asciiName? (cs : List Char) : Option (List Char) := do
  let cs := cs.flatMap mapped
  if cs.any isForbidden then none
  return List.intercalate ['.'] (← (labels cs).mapM asciiLabel?)

def baseOf : List Char → Nat × List Char
  | '0' :: 'x' :: ds => (16, ds)
  | '0' :: 'X' :: ds => (16, ds)
  | '0' :: d :: ds => (8, d :: ds)
  | ds => (10, ds)

def number? (cs : List Char) : Option Nat :=
  if cs.isEmpty then none
  else
    let (base, ds) := baseOf cs
    ds.foldlM (fun n c => do
      let d ← Text.hexValue? c
      if d < base then some (n * base + d) else none) 0

/-- The labels without an empty one at the end. -/
def innerLabels (cs : List Char) : List (List Char) :=
  let ls := labels cs
  if ls.getLast? = some [] then ls.dropLast else ls

def endsInNumber (cs : List Char) : Bool :=
  match (innerLabels cs).getLast? with
  | some l => (!l.isEmpty && l.all Char.isDigit) || ((baseOf l).1 = 16 && (number? l).isSome)
  | none => false

/-- An address of up to four numbers, the last of which fills the bytes that are left. -/
def bytesOf? (cs : List Char) : Option IPv4 := do
  let ns ← (innerLabels cs).mapM number?
  let last ← ns.getLast?
  let front := ns.dropLast
  if 3 < front.length || front.any (255 < ·) || Nat.pow 256 (4 - front.length) ≤ last then none
  return .ofNat (front.foldr (fun n rest => n * 16777216 + rest / 256) 0 + last)

def parse? (cs : List Char) : Option Host :=
  match cs with
  | '[' :: rest =>
    if rest.getLast? = some ']' then (IPv6.parse? rest.dropLast).map .v6 else none
  | _ => do
    let ascii ← asciiName? (Text.decodeLossy (Text.percentDecode cs)).toList
    if ascii.isEmpty then none
    if endsInNumber ascii then (bytesOf? ascii).map .v4 else some (.name (String.ofList ascii))

/-- Whether a host of another kind of address may not hold a character. -/
def isForbiddenAnywhere (c : Char) : Bool :=
  "\x00\t\n\r #/:<>?@[\\]^|".toList.contains c

/-- Reads the host of another kind of address, which is kept as it is. -/
def parseOpaque? (cs : List Char) : Option Host :=
  match cs with
  | '[' :: rest =>
    if rest.getLast? = some ']' then (IPv6.parse? rest.dropLast).map .v6 else none
  | _ =>
    if cs.any isForbiddenAnywhere then none
    else some (.name (Text.percentEncode (fun c => 0x20 ≤ c.toNat && c.toNat < 0x7F) cs))

end Host

end AnswerGateway.Net
