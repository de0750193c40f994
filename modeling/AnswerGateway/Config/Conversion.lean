import AnswerGateway.Config.Setting
import AnswerGateway.Decimal.Layout
import AnswerGateway.Json.Format
import AnswerGateway.Text.Shown

/-!
Making typed values of settings. Variables of the environment are texts, so settings are converted
freely: a number is also a text, a truth value is also a number, and a text may spell either. A
number is cut to the width that is wanted.
-/

namespace AnswerGateway.Config

open Json (ticked)

inductive Misfit where
  /-- A value that cannot be converted: what it is, what was wanted, and where it was found. -/
  | unusable (found wanted : String) (path : List Json.PathStep) (origin : Option String)
  | other (message : String)
  deriving DecidableEq, Repr

namespace Misfit

def showPath : List Json.PathStep → String
  | [] => ""
  | .item i :: rest => "[" ++ toString i ++ "]" ++ showPath rest
  | .field n :: .item i :: rest => n ++ showPath (.item i :: rest)
  | .field n :: [] => n
  | .field n :: rest => n ++ "." ++ showPath rest
  | .variant n :: rest => n ++ showPath rest

def message : Misfit → String
  | .unusable found wanted path origin =>
    "invalid type: " ++ found ++ ", expected " ++ wanted ++
      (if path.isEmpty then "" else " for key " ++ ticked (showPath path)) ++
      (match origin with
        | some o => " in " ++ o
        | none => "")
  | .other message => message

def inside (step : Json.PathStep) : Misfit → Misfit
  | .unusable found wanted path origin => .unusable found wanted (step :: path) origin
  | .other message => .other message

end Misfit

abbrev FromSetting (α : Type) := Setting → Except Misfit α

namespace Setting

/-- How a message names a value that could not be converted. -/
def describe : Setting → String
  | .scalar _ .nothing => "unit value"
  | .scalar _ (.flag b) => "boolean " ++ ticked (toString b)
  | .scalar _ (.whole i) => "64-bit integer " ++ ticked (toString i)
  | .scalar _ (.double x) => "floating point " ++ ticked (String.ofList (Decimal.doublePlain x))
  | .scalar _ (.text s) => "string " ++ Text.shown s
  | .list _ _ => "sequence"
  | .table _ _ => "map"

def pointed (x : Float) : String :=
  let cs := Decimal.doublePlain x
  String.ofList (if x.isFinite && !cs.contains '.' then cs ++ ['.', '0'] else cs)

/-- How a message names a value that is not a record. -/
def describeInRecord : Setting → String
  | .scalar _ (.whole i) => "integer " ++ ticked (toString i)
  | .scalar _ (.double x) => "floating point " ++ ticked (pointed x)
  | s => s.describe

def origin : Setting → Option String
  | .scalar o _ | .list o _ | .table o _ => o

variable {α β : Type}

def unusable (s : Setting) (wanted : String) : Except Misfit α :=
  .error (.unusable s.describe wanted [] s.origin)

def spokenFlag? (s : String) : Option Bool :=
  let w := Text.small s
  if w = "true" ∨ w = "on" ∨ w = "yes" then some true
  else if w = "false" ∨ w = "off" ∨ w = "no" then some false
  else none

def toText : FromSetting String
  | .scalar _ (.text s) => .ok s
  | .scalar _ (.flag b) => .ok (toString b)
  | .scalar _ (.whole i) => .ok (toString i)
  | .scalar _ (.double x) => .ok (String.ofList (Decimal.doublePlain x))
  | s => s.unusable "a string"

def toFlag : FromSetting Bool
  | .scalar _ (.flag b) => .ok b
  | .scalar _ (.whole i) => .ok (i ≠ 0)
  | .scalar _ (.double x) => .ok (x != 0.0)
  | .scalar o (.text s) =>
    match spokenFlag? s with
    | some b => .ok b
    | none =>
      if s = "1" then .ok true
      else if s = "0" then .ok false
      else .error (.unusable ("string " ++ Text.shown (Text.small s)) "a boolean" [] o)
  | s => s.unusable "a boolean"

/-- A natural number: doubles are rounded, a half away from zero, and kept within bounds. -/
def toWord : FromSetting UInt64
  | .scalar o (.whole i) =>
    if 0 ≤ i.toInt then .ok i.toInt.toNat.toUInt64
    else .error (.unusable (describe (.scalar o (.whole i)))
      "an unsigned 64 bit or less integer" [] o)
  | .scalar _ (.flag b) => .ok (if b then 1 else 0)
  | .scalar _ (.double x) => .ok x.round.toUInt64
  | .scalar o (.text s) =>
    match spokenFlag? s with
    | some b => .ok (if b then 1 else 0)
    | none =>
      match Decimal.parseWord64? s with
      | some n => .ok n
      | none => unusable (.scalar o (.text s)) "an integer"
  | s => s.unusable "an integer"

def toInt : FromSetting Int
  | .scalar _ (.whole i) => .ok i.toInt
  | .scalar _ (.flag b) => .ok (if b then 1 else 0)
  | .scalar _ (.double x) => .ok x.round.toInt64.toInt
  | .scalar o (.text s) =>
    match spokenFlag? s with
    | some b => .ok (if b then 1 else 0)
    | none =>
      match Decimal.parseInt64? s with
      | some n => .ok n.toInt
      | none => unusable (.scalar o (.text s)) "an integer"
  | s => s.unusable "an integer"

def toDouble : FromSetting Float
  | .scalar _ (.double x) => .ok x
  | .scalar _ (.whole i) => .ok (Float.ofInt i.toInt)
  | .scalar _ (.flag b) => .ok (if b then 1 else 0)
  | .scalar o (.text s) =>
    match spokenFlag? s with
    | some b => .ok (if b then 1 else 0)
    | none =>
      match Decimal.parseDouble? s with
      | some x => .ok x
      | none => unusable (.scalar o (.text s)) "a floating point"
  | s => s.unusable "a floating point"

def toOptional (value : FromSetting α) : FromSetting (Option α)
  | .scalar _ .nothing => .ok none
  | s => some <$> value s

/-- Reads the items of a list, each with its index in the path of a misfit. -/
def toItems (value : FromSetting α) : List Setting → Nat → Except Misfit (List α)
  | [], _ => .ok []
  | s :: rest, index => do
    let a ← (value s).mapError (Misfit.inside (.item index))
    return a :: (← toItems value rest (index + 1))

def toListOf (value : FromSetting α) : FromSetting (List α)
  | .list _ items => toItems value items 0
  | s => .error (.other ("invalid type: " ++ s.describeInRecord ++ ", expected a sequence"))

def toChoice (type : String) (options : List (String × α)) : FromSetting α
  | .scalar _ (.text name) => pickNamed name
  | .table _ [(name, _)] => pickNamed name
  | _ => .error (.other ("value of enum " ++ type ++
      " should be represented by either string or table with exactly one key"))
where
  pickNamed (name : String) : Except Misfit α :=
    match options.find? fun o => Text.small o.1 == Text.small name with
    | some o => .ok o.2
    | none => .error (.other ("enum " ++ type ++ " does not have variant constructor " ++ name))

def recordOfEntries (fields : List (Json.Field FromSetting α)) :
    List (String × Setting) → List String → α → Except Misfit α
  | [], seen, a =>
    match Json.firstMissing fields seen with
    | some name => .error (.other ("missing field " ++ ticked name))
    | none => .ok a
  | (name, s) :: rest, seen, a =>
    match fields.find? (·.name == name) with
    | some f =>
      match f.change s with
      | .ok change => recordOfEntries fields rest (name :: seen) (change a)
      | .error e => .error (e.inside (.field name))
    | none => recordOfEntries fields rest seen a

/-- Reads the items of a list into a record. Items beyond the last field are passed over. -/
def recordOfItems (wanted : String) :
    List (Json.Field FromSetting α) → List Setting → Nat → α → Except Misfit α
  | [], _, _, a => .ok a
  | f :: fields, s :: items, index, a =>
    match f.change s with
    | .ok change => recordOfItems wanted fields items (index + 1) (change a)
    | .error e => .error (e.inside (.item index))
  | f :: fields, [], index, a =>
    if f.absence = .defaulted then recordOfItems wanted fields [] (index + 1) a
    else .error (.other ("invalid length " ++ toString index ++ ", expected " ++ wanted))

def toRecord (name : String) (start : α) (fields : List (Json.Field FromSetting α)) : FromSetting α
  | .table _ entries => recordOfEntries fields entries [] start
  | .list _ items => recordOfItems (Json.recordLength name fields.length) fields items 0 start
  | s => .error (.other ("invalid type: " ++ s.describeInRecord ++ ", expected " ++
      Json.recordName name))

end Setting

instance : Json.Format FromSetting where
  map f value := fun s => f <$> value s
  text := Setting.toText
  flag := Setting.toFlag
  unsigned _ bits := fun s => (fun n => n.toNat % Nat.pow 2 bits) <$> Setting.toWord s
  signed := Setting.toInt
  single := fun s => Float.toFloat32 <$> Setting.toDouble s
  double := Setting.toDouble
  optional := Setting.toOptional
  list := Setting.toListOf
  choice := Setting.toChoice
  record := Setting.toRecord

end AnswerGateway.Config
