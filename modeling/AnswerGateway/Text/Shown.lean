import AnswerGateway.Text.Hex
import AnswerGateway.Text.Hidden

/-!
A text as it is shown inside a message: within double quotes, with everything escaped that could be
misread.
-/

namespace AnswerGateway.Text

def shownChar (c : Char) : List Char :=
  if c = '"' then ['\\', '"']
  else if c = '\\' then ['\\', '\\']
  else if c = '\x00' then ['\\', '0']
  else if c = '\t' then ['\\', 't']
  else if c = '\n' then ['\\', 'n']
  else if c = '\r' then ['\\', 'r']
  else if isHidden c then ['\\', 'u', '\x7b'] ++ hex c.toNat ++ ['\x7d']
  else [c]

/-- A text within double quotes, with what could be misread escaped. -/
def shown (s : String) : String := String.ofList ('"' :: s.toList.flatMap shownChar ++ ['"'])

end AnswerGateway.Text
