import AnswerGateway.Json.Cursor
import AnswerGateway.Text.Hex

/-!
Quoted texts. A text is read between its quotes; escapes stand for characters, a pair of surrogate
escapes for one character. Names of fields that nobody asked for, and texts inside values that
nobody asked for, are passed over more leniently: their escapes are checked for form only and their
bytes are not checked at all.
-/

namespace AnswerGateway.Json

open Text (Glyph hexValue?)

def placedFailure (cause : Cause) (place : Place) : Failure := ⟨cause, [], .placed place⟩

def readHex4 (c : Cursor) : Except Failure (Nat × Cursor) :=
  match c.rest with
  | .char a :: .char b :: .char d :: .char e :: rest =>
    match hexValue? a, hexValue? b, hexValue? d, hexValue? e with
    | some a, some b, some d, some e =>
      .ok (((a * 16 + b) * 16 + d) * 16 + e, ⟨rest, c.line, c.column + 4⟩)
    | _, _, _, _ => malformed
  | _ => malformed
where
  /-- Fewer than four bytes mean that the text ended, other bytes that the escape is wrong. -/
  malformed : Except Failure (Nat × Cursor) :=
    match Cursor.afterBytes 4 c.rest c.here with
    | some place => .error (placedFailure .badEscape place)
    | none => .error (placedFailure (.ended .text) (Cursor.endPlace c.rest c.here))

/-- Takes one byte that must be the given one, inside a surrogate pair. -/
def expectInPair (a : Char) (c : Cursor) : Except Failure Cursor :=
  if c.atEnd then .error (placedFailure (.ended .text) c.here)
  else if c.char? = some a then .ok c.next
  else .error (placedFailure .shortHexEscape c.ahead)

/-- Reads an escape by number. A leading surrogate must be followed by a trailing one. -/
def readUnicodeEscape (c : Cursor) : Except Failure (Char × Cursor) := do
  let (n, c) ← readHex4 c
  if 0xDC00 ≤ n ∧ n ≤ 0xDFFF then .error (placedFailure .loneSurrogate c.here)
  else if n < 0xD800 ∨ 0xDBFF < n then .ok (Char.ofNat n, c)
  else
    let c ← expectInPair '\\' c
    let c ← expectInPair 'u' c
    let (low, c) ← readHex4 c
    if low < 0xDC00 ∨ 0xDFFF < low then .error (placedFailure .loneSurrogate c.here)
    else .ok (Char.ofNat ((n - 0xD800) * 0x400 + (low - 0xDC00) + 0x10000), c)

def escapeLetter? (c : Char) : Option Char :=
  match c with
  | '"' => some '"'
  | '\\' => some '\\'
  | '/' => some '/'
  | 'b' => some '\x08'
  | 'f' => some '\x0c'
  | 'n' => some '\n'
  | 'r' => some '\r'
  | 't' => some '\t'
  | _ => none

def readEscape (c : Cursor) : Except Failure (Char × Cursor) :=
  if c.atEnd then .error (placedFailure (.ended .text) c.here)
  else if c.char? = some 'u' then readUnicodeEscape c.next
  else
    match c.char?.bind escapeLetter? with
    | some a => .ok (a, c.next)
    | none => .error (placedFailure .badEscape c.ahead)

/-- Reads the rest of a quoted text. `done` holds the characters so far, the last one first, and
`bad` the place of the first byte that is not UTF-8; that failure waits for the closing quote. -/
def readQuotedFrom : Nat → Cursor → List Char → Option Place → Except Failure (String × Cursor)
  | 0, c, _, _ => .error (placedFailure (.ended .text) c.here)
  | fuel + 1, c, done, bad =>
    match c.rest with
    | [] => .error (placedFailure (.ended .text) c.here)
    | .broken _ :: _ => readQuotedFrom fuel c.next done (bad <|> some c.ahead)
    | .char a :: _ =>
      if a = '"' then
        match bad with
        | none => .ok (String.ofList done.reverse, c.next)
        | some place => .error (placedFailure .badCodePoint place)
      else if a = '\\' then
        match readEscape c.next with
        | .ok (b, c) => readQuotedFrom fuel c (b :: done) bad
        | .error f => .error f
      else if a.toNat < 0x20 then .error (placedFailure .controlCharacter c.ahead)
      else readQuotedFrom fuel c.next (a :: done) bad

/-- Reads a quoted text behind its opening quote. Every step takes a glyph, so the length of the
rest bounds the steps. -/
def readQuoted : Scan String := fun c => readQuotedFrom (c.rest.length + 1) c [] none

def skipQuotedFrom : Nat → Cursor → Except Failure (Unit × Cursor)
  | 0, c => .error (placedFailure (.ended .text) c.here)
  | fuel + 1, c =>
    match c.rest with
    | [] => .error (placedFailure (.ended .text) c.here)
    | .broken _ :: _ => skipQuotedFrom fuel c.next
    | .char a :: _ =>
      if a = '"' then .ok ((), c.next)
      else if a = '\\' then
        let c := c.next
        if c.atEnd then .error (placedFailure (.ended .text) c.here)
        else if c.char? = some 'u' then
          match readHex4 c.next with
          | .ok (_, c) => skipQuotedFrom fuel c
          | .error f => .error f
        else
          match c.char?.bind escapeLetter? with
          | some _ => skipQuotedFrom fuel c.next
          | none => .error (placedFailure .badEscape c.ahead)
      else if a.toNat < 0x20 then .error (placedFailure .controlCharacter c.here)
      else skipQuotedFrom fuel c.next

def skipQuoted : Scan Unit := fun c => skipQuotedFrom (c.rest.length + 1) c

end AnswerGateway.Json
