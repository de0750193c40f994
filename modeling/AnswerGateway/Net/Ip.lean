import AnswerGateway.Text.Hex

/-!
Addresses of hosts in numbers. Four bytes are written in decimal with dots, eight words in
hexadecimal with colons, where the longest run of two or more zeros is left out. `Ip.parse?` takes
one spelling of four bytes only, so that no number is ever read as octal.
-/

namespace AnswerGateway.Net

structure IPv4 where
  a : UInt8
  b : UInt8
  c : UInt8
  d : UInt8
  deriving DecidableEq, Repr

structure IPv6 where
  words : List UInt16
  length_words : words.length = 8 := by decide
  deriving DecidableEq, Repr

inductive Ip where
  | v4 (address : IPv4)
  | v6 (address : IPv6)
  deriving DecidableEq, Repr

/-- A number at the start of a text: all digits that are there, at most `most` of them. -/
def takeNumber? (base most : Nat) (cs : List Char) : Option (Nat × List Char) :=
  let isDigit (c : Char) := (Text.hexValue? c).any (· < base)
  let ds := cs.takeWhile isDigit
  if ds.isEmpty || most < ds.length then none
  else
    some (ds.foldl (fun n c => n * base + (Text.hexValue? c).getD 0) 0, cs.dropWhile isDigit)

/-- A byte in decimal at the start of a text. A zero starts no other number than zero. -/
def takeByte? (cs : List Char) : Option (UInt8 × List Char) := do
  let (n, rest) ← takeNumber? 10 3 cs
  if n < 256 && (cs.head? != some '0' || cs.length = rest.length + 1) then
    some (UInt8.ofNat n, rest)
  else none

def after? (mark : Char) : List Char → Option (List Char)
  | c :: rest => if c = mark then some rest else none
  | [] => none

namespace IPv4

def take? (cs : List Char) : Option (IPv4 × List Char) := do
  let (a, cs) ← takeByte? cs
  let (b, cs) ← takeByte? (← after? '.' cs)
  let (c, cs) ← takeByte? (← after? '.' cs)
  let (d, cs) ← takeByte? (← after? '.' cs)
  return (⟨a, b, c, d⟩, cs)

def ofNat (n : Nat) : IPv4 :=
  ⟨UInt8.ofNat (n / 16777216), UInt8.ofNat (n / 65536), UInt8.ofNat (n / 256), UInt8.ofNat n⟩

def words (x : IPv4) : List UInt16 :=
  [x.a.toUInt16 * 256 + x.b.toUInt16, x.c.toUInt16 * 256 + x.d.toUInt16]

def text (x : IPv4) : String :=
  String.intercalate "." ([x.a, x.b, x.c, x.d].map fun b => toString b.toNat)

end IPv4

namespace IPv6

/-- Words at the start of a text, at most `room` of them, with colons between them. Four bytes may
stand for the last two. Says whether they did. -/
def takeWords : Nat → Bool → List Char → List UInt16 × Bool × List Char
  | 0, _, cs => ([], false, cs)
  | room + 1, first, cs =>
    match if first then some cs else after? ':' cs with
    | none => ([], false, cs)
    | some here =>
      match if 0 < room then IPv4.take? here else none with
      | some (x, rest) => (x.words, true, rest)
      | none =>
        match takeNumber? 16 4 here with
        | none => ([], false, cs)
        | some (n, rest) =>
          let (ws, bytes, rest) := takeWords room false rest
          (UInt16.ofNat n :: ws, bytes, rest)

def ofWords? (ws : List UInt16) : Option IPv6 :=
  if h : ws.length = 8 then some ⟨ws, h⟩ else none

/-- An address: eight words, or fewer with two colons where the zeros are. -/
def parse? (cs : List Char) : Option IPv6 :=
  let (front, bytes, rest) := takeWords 8 true cs
  if front.length = 8 then if rest.isEmpty then ofWords? front else none
  else if bytes then none
  else
    match rest with
    | ':' :: ':' :: rest =>
      let (back, _, rest) := takeWords (7 - front.length) true rest
      if rest.isEmpty then
        ofWords? (front ++ List.replicate (8 - front.length - back.length) 0 ++ back)
      else none
    | _ => none

def zeros (ws : List UInt16) : Nat := (ws.takeWhile (· = 0)).length

/-- Where the longest run of zeros is, the first of equally long ones: its start and length. -/
def longestZeros : Nat → List UInt16 → Nat × Nat
  | _, [] => (0, 0)
  | start, w :: rest =>
    let here := zeros (w :: rest)
    let later := longestZeros (start + 1) rest
    if later.2 ≤ here then (start, here) else later

def joined (ws : List UInt16) : String :=
  String.intercalate ":" (ws.map fun w => String.ofList (Text.hex w.toNat))

def hexText (x : IPv6) : String :=
  let (start, length) := longestZeros 0 x.words
  if length < 2 then joined x.words
  else joined (x.words.take start) ++ "::" ++ joined (x.words.drop (start + length))

/-- The address; one that stands for four bytes shows them. -/
def text (x : IPv6) : String :=
  match x.words with
  | [0, 0, 0, 0, 0, 0xffff, p, q] =>
    "::ffff:" ++ (IPv4.ofNat (p.toNat * 65536 + q.toNat)).text
  | _ => x.hexText

end IPv6

namespace Ip

def parse? (s : String) : Option Ip :=
  match IPv4.take? s.toList with
  | some (x, []) => some (.v4 x)
  | _ => (IPv6.parse? s.toList).map .v6

def withPort : Ip → UInt16 → String
  | .v4 x, port => x.text ++ ":" ++ toString port.toNat
  | .v6 x, port => "[" ++ x.text ++ "]:" ++ toString port.toNat

end Ip

end AnswerGateway.Net
