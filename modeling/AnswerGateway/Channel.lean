/-!
A bounded channel between one sender and one receiver. An offer to a full channel is refused for
now; an offer to a channel whose receiver has gone is refused for good. What was accepted before the
sender went can still be taken. The channel holds no waiting parties: whoever is refused for now
keeps the item and offers it again.
-/

namespace AnswerGateway

/-- Items on their way, the oldest first. -/
structure Channel (α : Type) where
  capacity : Nat
  items : List α := []
  senderGone : Bool := false
  receiverGone : Bool := false
  deriving DecidableEq, Repr

namespace Channel

variable {α : Type}

inductive Offer (α : Type) where
  | accepted (after : Channel α)
  | full
  | closed

inductive Taken (α : Type) where
  | item (a : α) (after : Channel α)
  | empty
  | ended

/-- An empty channel; a capacity of zero counts as one. -/
def withCapacity (n : Nat) : Channel α := { capacity := max n 1 }

def offer (c : Channel α) (a : α) : Offer α :=
  if c.receiverGone then .closed
  else if c.items.length < c.capacity then .accepted { c with items := c.items ++ [a] }
  else .full

def take (c : Channel α) : Taken α :=
  match c.items with
  | a :: rest => .item a { c with items := rest }
  | [] => if c.senderGone then .ended else .empty

def dropSender (c : Channel α) : Channel α := { c with senderGone := true }

/-- Items that were not taken are lost with the receiver. -/
def dropReceiver (c : Channel α) : Channel α := { c with receiverGone := true, items := [] }

end Channel

end AnswerGateway
