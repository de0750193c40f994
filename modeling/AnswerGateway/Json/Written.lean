import AnswerGateway.Json.Printer

/-!
Types that write themselves as JSON, with their fields in an order of their own.
-/

namespace AnswerGateway.JsonText

variable {α : Type}

def field (name : String) (value : List Char) : List (String × List Char) := [(name, value)]

def fieldIfSome (name : String) (write : α → List Char) : Option α → List (String × List Char)
  | some a => [(name, write a)]
  | none => []

def orNull (write : α → List Char) : Option α → List Char
  | some a => write a
  | none => literalNull

end AnswerGateway.JsonText
