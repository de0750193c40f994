import AnswerGateway.Completion.Pump
import AnswerGateway.Proofs.Channel
import AnswerGateway.Proofs.Completion.Chunks

/-!
Every step of a pump, spelled out, with the chunks that it will still hand over and with what that
still costs. A pump that is not kept waiting, by a full channel or by a body that hangs, can move.
-/

namespace AnswerGateway.Completion

/-- The chunks that a pump will still hand over: those that it has read and those that it will read
before the body ends. -/
def Pump.due (p : Pump) : List Chunk :=
  if p.stopped then [] else p.outbox ++ (p.reading.reads (p.body.reads ++ [.ended])).1

/-- What a pump and what it hands over still cost. A chunk is offered and taken, and makes at most
three frames, each of which is offered and taken. -/
def Pump.effort (p : Pump) : Nat :=
  if p.stopped then 0
  else 8 * p.due.length + (if p.reading.complete then 0 else p.body.reads.length + 1) + 1

theorem Body.next_hangs {b after : Body} {x : Read} (next : b.next = some (x, after)) :
    after.hangs = b.hangs := by
  unfold Body.next at next
  split at next
  · cases next
    rfl
  · split at next
    · cases next
    · cases next
      rfl

namespace Pump

variable {p : Pump}

/-- A step of a pump: why it can and what pump and channel are then. -/
inductive Step (p : Pump) (chunks : Channel Chunk) : Pump → Channel Chunk → Prop where
  | offered {c : Chunk} {rest : List Chunk} (next : p.outbox = c :: rest)
      (present : chunks.receiverGone = false) (room : chunks.items.length < chunks.capacity) :
      Step p chunks { p with outbox := rest } { chunks with items := chunks.items ++ [c] }
  | stopped (why : (p.outbox = [] ∧ p.reading.complete = true) ∨ chunks.receiverGone = true) :
      Step p chunks { p with outbox := [], stopped := true } chunks.dropSender
  | read {x : Read} {body : Body} (empty : p.outbox = []) (progress : p.reading.complete = false)
      (present : chunks.receiverGone = false) (next : p.body.next = some (x, body)) :
      Step p chunks
        { p with reading := (p.reading.read x).2, outbox := (p.reading.read x).1, body } chunks

theorem step_cases {after : Pump} {chunks chunks' : Channel Chunk}
    (h : p.step chunks = some (after, chunks')) :
    p.stopped = false ∧ Step p chunks after chunks' := by
  unfold step at h
  split at h
  · cases h
  · rename_i stopped
    refine ⟨by simpa using stopped, ?_⟩
    split at h
    · rename_i c rest next
      rcases chunks.offer_cases c with
        ⟨gone, hoffer⟩ | ⟨present, room, hoffer⟩ | ⟨-, -, hoffer⟩
      · rw [hoffer] at h
        cases h
        exact .stopped (.inr gone)
      · rw [hoffer] at h
        cases h
        exact .offered next present room
      · rw [hoffer] at h
        cases h
    · rename_i empty
      split at h
      · rename_i closes
        cases h
        exact .stopped ((Bool.or_eq_true_iff.mp closes).imp (fun complete => ⟨empty, complete⟩) id)
      · rename_i goesOn
        simp only [Bool.or_eq_true, not_or, Bool.not_eq_true] at goesOn
        split at h
        · cases h
        · rename_i x body next
          simp only [Option.some.injEq, Prod.mk.injEq] at h
          obtain ⟨rfl, rfl⟩ := h
          exact .read empty goesOn.1 goesOn.2 next

theorem due_of_outbox (alive : p.stopped = false) {c : Chunk} {rest : List Chunk}
    (next : p.outbox = c :: rest) : p.due = c :: due { p with outbox := rest } := by
  simp [due, alive, next]

theorem due_of_complete (empty : p.outbox = []) (complete : p.reading.complete = true) :
    p.due = [] := by
  simp [due, empty, Reading.reads_complete _ complete]

theorem due_of_read (alive : p.stopped = false) (empty : p.outbox = []) {x : Read} {body : Body}
    (next : p.body.next = some (x, body)) :
    due { p with reading := (p.reading.read x).2, outbox := (p.reading.read x).1, body } =
      p.due := by
  unfold Body.next at next
  cases hreads : p.body.reads with
  | cons y rest =>
      simp only [hreads] at next
      cases next
      simp [due, alive, empty, hreads, Reading.reads]
  | nil =>
      simp only [hreads] at next
      split at next
      · cases next
      · cases next
        have complete := Reading.read_ended p.reading
        simp [due, alive, empty, hreads, Reading.reads, Reading.read_complete _ complete]

/-- Every read is followed by one less, the end of the body by none. -/
theorem effort_read (alive : p.stopped = false) (empty : p.outbox = [])
    (progress : p.reading.complete = false) {x : Read} {body : Body}
    (next : p.body.next = some (x, body)) :
    effort { p with reading := (p.reading.read x).2, outbox := (p.reading.read x).1, body } <
      p.effort := by
  have hdue := due_of_read alive empty next
  have hreads : (if (p.reading.read x).2.complete then 0 else body.reads.length + 1) <
      p.body.reads.length + 1 := by
    unfold Body.next at next
    split at next
    · rename_i y rest hbody
      cases next
      rw [hbody, List.length_cons]
      dsimp only
      split <;> omega
    · split at next
      · cases next
      · cases next
        rw [if_pos (Reading.read_ended p.reading)]
        exact Nat.succ_pos _
  simp only [effort, alive, progress, Bool.false_eq_true, if_false] at hdue ⊢
  rw [hdue]
  omega

theorem effort_of_outbox (alive : p.stopped = false) {c : Chunk} {rest : List Chunk}
    (next : p.outbox = c :: rest) : p.effort = effort { p with outbox := rest } + 8 := by
  simp only [effort, alive, due_of_outbox alive next, List.length_cons, Bool.false_eq_true,
    if_false]
  omega

theorem effort_of_stopped (stopped : p.stopped = true) : p.effort = 0 := by
  simp [effort, stopped]

theorem effort_pos (alive : p.stopped = false) : 0 < p.effort := by
  simp [effort, alive]

theorem step_isSome {chunks : Channel Chunk} (alive : p.stopped = false)
    (hangs : p.body.hangs = false) (present : chunks.receiverGone = false)
    (empty : chunks.items = []) (room : 0 < chunks.capacity) : (p.step chunks).isSome = true := by
  cases hout : p.outbox with
  | cons c rest => simp [step, alive, hout, Channel.offer, present, empty, room]
  | nil =>
      cases hcomplete : p.reading.complete with
      | true => simp [step, alive, hout, hcomplete]
      | false =>
          cases hreads : p.body.reads with
          | nil => simp [step, alive, hout, hcomplete, present, Body.next, hreads, hangs]
          | cons x rest => simp [step, alive, hout, hcomplete, present, Body.next, hreads]

end Pump

end AnswerGateway.Completion
