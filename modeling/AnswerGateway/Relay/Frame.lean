/-!
What a client is sent of an answer, and how a known answer is cut into pieces for sending.
-/

namespace AnswerGateway.Relay

inductive Frame where
  | delta (content : String)
  | finish
  | done
  deriving DecidableEq, Repr

def Frame.text : Frame → String
  | .delta content => content
  | _ => ""

/-- Characters in groups of `size`, the last group possibly shorter. `group` holds the characters
of the group that is being filled, the last one first, and `room` how many more it takes. -/
def groupsFrom (size : Nat) : List Char → Nat → List Char → List (List Char)
  | [], _, group => if group.isEmpty then [] else [group.reverse]
  | c :: rest, room, group =>
    if room ≤ 1 then (c :: group).reverse :: groupsFrom size rest size []
    else groupsFrom size rest (room - 1) (c :: group)

/-- Cuts a text into pieces of `size` characters; a size of zero counts as one. A piece never
splits a character. -/
def pieces (text : String) (size : Nat) : List String :=
  (groupsFrom (max size 1) text.toList (max size 1) []).map String.ofList

end AnswerGateway.Relay
