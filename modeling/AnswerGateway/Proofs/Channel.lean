import AnswerGateway.Completion.Stream

/-!
What a channel answers to an offer and to whoever receives from it, and what is left of it when one
of its ends goes.
-/

namespace AnswerGateway

namespace Channel

variable {α : Type} (c : Channel α)

theorem offer_cases (a : α) :
    (c.receiverGone = true ∧ c.offer a = .closed) ∨
      (c.receiverGone = false ∧ c.items.length < c.capacity ∧
        c.offer a = .accepted { c with items := c.items ++ [a] }) ∨
      (c.receiverGone = false ∧ c.capacity ≤ c.items.length ∧ c.offer a = .full) := by
  cases gone : c.receiverGone with
  | true => exact .inl ⟨rfl, by simp [offer, gone]⟩
  | false =>
      by_cases room : c.items.length < c.capacity
      · exact .inr (.inl ⟨rfl, room, by simp [offer, gone, room]⟩)
      · exact .inr (.inr ⟨rfl, Nat.not_lt.mp room, by simp [offer, gone, room]⟩)

@[simp]
theorem dropReceiver_receiverGone : c.dropReceiver.receiverGone = true := rfl

@[simp]
theorem dropReceiver_items : c.dropReceiver.items = [] := rfl

@[simp]
theorem dropReceiver_senderGone : c.dropReceiver.senderGone = c.senderGone := rfl

@[simp]
theorem dropReceiver_capacity : c.dropReceiver.capacity = c.capacity := rfl

@[simp]
theorem dropSender_senderGone : c.dropSender.senderGone = true := rfl

@[simp]
theorem dropSender_items : c.dropSender.items = c.items := rfl

@[simp]
theorem dropSender_receiverGone : c.dropSender.receiverGone = c.receiverGone := rfl

@[simp]
theorem dropSender_capacity : c.dropSender.capacity = c.capacity := rfl

end Channel

namespace Completion

variable {α : Type} {items after : Channel α}

theorem receive_item {a : α} (h : receive items = (.item a, after)) :
    items.receiverGone = false ∧ ∃ rest, items.items = a :: rest ∧
      after = { items with items := rest } := by
  unfold receive Channel.take at h
  cases gone : items.receiverGone with
  | true => simp [gone] at h
  | false =>
      cases next : items.items with
      | nil => cases closes : items.senderGone <;> simp [gone, next, closes] at h
      | cons b rest =>
          simp only [gone, next, Bool.false_eq_true, if_false, Prod.mk.injEq,
            ConsumerNews.item.injEq] at h
          obtain ⟨rfl, rfl⟩ := h
          exact ⟨rfl, rest, rfl, rfl⟩

theorem receive_closed (h : (receive items).1 = .closed) :
    items.items = [] ∧ items.senderGone = true := by
  unfold receive Channel.take at h
  cases gone : items.receiverGone with
  | true => simp [gone] at h
  | false =>
      cases next : items.items with
      | cons a rest => simp [gone, next] at h
      | nil =>
          cases closes : items.senderGone with
          | true => exact ⟨rfl, rfl⟩
          | false => simp [gone, next, closes] at h

end Completion

end AnswerGateway
