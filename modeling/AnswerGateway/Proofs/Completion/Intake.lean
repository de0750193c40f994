import AnswerGateway.Proofs.Completion.Event
import AnswerGateway.Proofs.Completion.Pump
import AnswerGateway.Proofs.Trace

/-!
A provider's answer while it is read: the pump and its consumer each take their steps when they
like, and the consumer may go. A consumer that keeps receiving is given one sequence of chunks in
every order of steps. The sequence depends on the bytes of the body and on how it ends, not on the
places where the bytes are cut.
-/

namespace AnswerGateway.Completion

structure Intake where
  live : Live
  taken : List Chunk := []

namespace Intake

inductive Action where
  | pump
  | take
  /-- The consumer goes. -/
  | drop
  deriving DecidableEq, Repr

def pump? (s : Intake) : Option Intake :=
  (s.live.pump.step s.live.chunks).map fun moved => { s with live := ⟨moved.1, moved.2⟩ }

def take? (s : Intake) : Option Intake :=
  match receive s.live.chunks with
  | (.item c, chunks) => some { live := { s.live with chunks }, taken := s.taken ++ [c] }
  | _ => none

/-- The intake after an action; none if the action cannot happen now. -/
def step? (s : Intake) : Action → Option Intake
  | .pump => s.pump?
  | .take => s.take?
  | .drop => some { s with live := { s.live with chunks := s.live.chunks.dropReceiver } }

def run? (s : Intake) (actions : List Action) : Option Intake := Trace.run? step? s actions

/-- A step: who moves, why it can and what the intake is then. -/
inductive Step (s : Intake) : Action → Intake → Prop where
  | pumped {pump : Pump} {chunks : Channel Chunk} (alive : s.live.pump.stopped = false)
      (moves : Pump.Step s.live.pump s.live.chunks pump chunks) :
      Step s .pump { s with live := ⟨pump, chunks⟩ }
  | taken {c : Chunk} {rest : List Chunk} (present : s.live.chunks.receiverGone = false)
      (next : s.live.chunks.items = c :: rest) :
      Step s .take
        { live := { s.live with chunks := { s.live.chunks with items := rest } }
          taken := s.taken ++ [c] }
  | dropped :
      Step s .drop { s with live := { s.live with chunks := s.live.chunks.dropReceiver } }

theorem step_of_step? {s s' : Intake} {a : Action} (h : s.step? a = some s') : Step s a s' := by
  cases a with
  | pump =>
      obtain ⟨⟨pump, chunks⟩, moved, rfl⟩ := Option.map_eq_some_iff.mp h
      obtain ⟨alive, moves⟩ := Pump.step_cases moved
      exact .pumped alive moves
  | take =>
      simp only [step?, take?] at h
      split at h
      · rename_i c chunks received
        obtain ⟨present, rest, next, rfl⟩ := receive_item received
        cases h
        exact .taken present next
      · cases h
  | drop =>
      cases h
      exact .dropped

/-- What holds of an intake at all times, the chunks for its consumer being given. -/
structure Carries (chunks : List Chunk) (s : Intake) : Prop where
  body : s.live.pump.body.hangs = false
  room : 0 < s.live.chunks.capacity
  sender : s.live.chunks.senderGone = s.live.pump.stopped
  begins : s.taken <+: chunks
  /-- Nothing is lost on the way to a consumer that is there. -/
  whole : s.live.chunks.receiverGone = false →
    s.taken ++ (s.live.chunks.items ++ s.live.pump.due) = chunks

theorem carries_start (reads : List Read) (capacity : Nat) :
    Carries (chunksOf (reads ++ [.ended])) { live := .start { reads } capacity } where
  body := rfl
  room := Nat.le_max_right capacity 1
  sender := rfl
  begins := List.nil_prefix
  whole _ := rfl

/-- Every step keeps this. -/
theorem carries_step {chunks : List Chunk} {s s' : Intake} {a : Action} (h : Carries chunks s)
    (step : Step s a s') : Carries chunks s' := by
  cases step with
  | pumped alive moves =>
      cases moves with
      | offered next present room =>
          refine ⟨h.body, h.room, h.sender, h.begins, fun _ => ?_⟩
          simpa [Pump.due_of_outbox alive next] using h.whole present
      | stopped why =>
          refine ⟨h.body, h.room, rfl, h.begins, fun present => ?_⟩
          have hwhole := h.whole present
          -- What the pump has read it drops only when nobody listens.
          rcases why with ⟨empty, complete⟩ | gone
          · rw [Pump.due_of_complete empty complete] at hwhole
            simpa [Pump.due] using hwhole
          · rw [Channel.dropSender_receiverGone] at present
            rw [present] at gone
            cases gone
      | read empty progress present next =>
          refine ⟨(Body.next_hangs next).trans h.body, h.room, h.sender, h.begins, fun _ => ?_⟩
          rw [Pump.due_of_read alive empty next]
          exact h.whole present
  | taken present next =>
      have hwhole := h.whole present
      rw [next, List.cons_append, List.append_cons] at hwhole
      exact ⟨h.body, h.room, h.sender, ⟨_, hwhole⟩, fun _ => hwhole⟩
  | dropped =>
      refine ⟨h.body, h.room, h.sender, h.begins, fun present => ?_⟩
      cases present

/-- What pump and consumer still have to do. -/
def effort (s : Intake) : Nat := s.live.pump.effort + s.live.chunks.items.length

/-- Every step of a consumer that keeps receiving, and of its pump, does some of it. -/
theorem effort_step {s s' : Intake} {a : Action} (keeps : a ≠ .drop) (step : Step s a s') :
    s'.effort < s.effort := by
  cases step with
  | pumped alive moves =>
      cases moves with
      | offered next present room =>
          have hoffer := Pump.effort_of_outbox alive next
          simp only [effort, List.length_append, List.length_singleton] at hoffer ⊢
          omega
      | stopped why =>
          have hpos := Pump.effort_pos alive
          simp only [effort, Channel.dropSender_items]
          rw [Pump.effort_of_stopped rfl]
          omega
      | read empty progress present next =>
          have hread := Pump.effort_read alive empty progress next
          simp only [effort]
          omega
  | taken present next =>
      simp only [effort, next, List.length_cons]
      omega
  | dropped => exact absurd rfl keeps

theorem present_step {s s' : Intake} {a : Action}
    (present : s.live.chunks.receiverGone = false) (keeps : a ≠ .drop) (step : Step s a s') :
    s'.live.chunks.receiverGone = false := by
  cases step with
  | pumped alive moves => cases moves <;> exact present
  | taken => exact present
  | dropped => exact absurd rfl keeps

/-- A run with a consumer that keeps receiving. -/
def Kept (start : Live) (actions : List Action) (s : Intake) : Prop :=
  run? { live := start } actions = some s ∧ .drop ∉ actions

/-- Whether a consumer has got these chunks and has learned that there are no more. -/
def Complete (s : Intake) (chunks : List Chunk) : Prop :=
  s.taken = chunks ∧ (receive s.live.chunks).1 = .closed

/-- While the consumer is there, it has got everything or one of the two can move. -/
theorem Carries.progress {chunks : List Chunk} {s : Intake} (h : Carries chunks s)
    (present : s.live.chunks.receiverGone = false) :
    s.Complete chunks ∨ ∃ a, a ≠ .drop ∧ (s.step? a).isSome = true := by
  cases items : s.live.chunks.items with
  | cons c rest =>
      exact .inr ⟨.take, by decide, by simp [step?, take?, receive, Channel.take, present, items]⟩
  | nil =>
      cases stopped : s.live.pump.stopped with
      | true =>
          have closes := h.sender.trans stopped
          have hwhole := h.whole present
          refine .inl ⟨?_, ?_⟩
          · simpa [items, Pump.due, stopped] using hwhole
          · simp [receive, Channel.take, present, items, closes]
      | false =>
          have moves := Pump.step_isSome stopped h.body present items h.room
          exact .inr ⟨.pump, by decide, by simpa [step?, pump?] using moves⟩

/-- Pump and consumer alone bring an intake to its end. -/
theorem Carries.exists_end {chunks : List Chunk} {s : Intake} (h : Carries chunks s)
    (present : s.live.chunks.receiverGone = false) :
    ∃ more s', .drop ∉ more ∧ s.run? more = some s' ∧ s'.Complete chunks := by
  -- The induction is on what is still to be done, of which every step does some.
  induction heffort : s.effort using Nat.strongRecOn generalizing s with
  | ind effort ih =>
      rcases h.progress present with complete | ⟨a, keeps, moves⟩
      · exact ⟨[], s, by simp, rfl, complete⟩
      · obtain ⟨next, hstep⟩ := Option.isSome_iff_exists.mp moves
        have step := step_of_step? hstep
        have hless := heffort ▸ effort_step keeps step
        obtain ⟨more, s', keepsOn, run, complete⟩ :=
          ih next.effort hless (carries_step h step) (present_step present keeps step) rfl
        refine ⟨a :: more, s', ?_, (Trace.run?_cons _).mpr ⟨next, hstep, run⟩, complete⟩
        intro member
        rcases List.mem_cons.mp member with rfl | later
        · exact keeps rfl
        · exact keepsOn later

/-- A run in which the consumer keeps receiving keeps what is carried, and every action of it has
done some of what was to be done. -/
theorem Carries.kept {chunks : List Chunk} {start : Live} {actions : List Action} {s : Intake}
    (h : Carries chunks { live := start }) (present : start.chunks.receiverGone = false)
    (kept : Kept start actions s) :
    Carries chunks s ∧ s.live.chunks.receiverGone = false ∧
      actions.length + s.effort ≤ effort { live := start } := by
  obtain ⟨run, stays⟩ := kept
  refine Trace.induction (motive := fun actions s => .drop ∉ actions →
    Carries chunks s ∧ s.live.chunks.receiverGone = false ∧
      actions.length + s.effort ≤ effort { live := start }) ?_ ?_ run stays
  · intro _
    exact ⟨h, present, by simp⟩
  · intro earlier s a s' before hstep stays
    rw [List.mem_append, List.mem_singleton, not_or] at stays
    obtain ⟨carries, present, hlength⟩ := before stays.1
    have step := step_of_step? hstep
    have keeps : a ≠ .drop := fun same => stays.2 same.symm
    have hless := effort_step keeps step
    refine ⟨carries_step carries step, present_step present keeps step, ?_⟩
    rw [List.length_append, List.length_singleton]
    omega

end Intake

/-- From this start on, a consumer that keeps receiving gets these chunks and learns that there are
no more, in whatever order it and the pump take their steps. -/
structure Live.Delivers (start : Live) (chunks : List Chunk) : Prop where
  /-- At all times it has got a first part of them. -/
  begins {actions : List Intake.Action} {s : Intake} (kept : Intake.Kept start actions s) :
    s.taken <+: chunks
  /-- Nothing stands still before the end. -/
  progress {actions : List Intake.Action} {s : Intake} (kept : Intake.Kept start actions s) :
    s.Complete chunks ∨ ∃ a, a ≠ .drop ∧ (s.step? a).isSome = true
  /-- If it learns that there are no more it has got them all. -/
  whole {actions : List Intake.Action} {s : Intake} (kept : Intake.Kept start actions s)
    (closed : (receive s.live.chunks).1 = .closed) : s.taken = chunks
  /-- The two need nobody else to come to the end. -/
  completes {actions : List Intake.Action} {s : Intake} (kept : Intake.Kept start actions s) :
    ∃ more s', .drop ∉ more ∧ s.run? more = some s' ∧ s'.Complete chunks
  /-- They do not go on for ever. -/
  bounded : ∃ steps, ∀ actions s, Intake.Kept start actions s → actions.length ≤ steps

namespace Live

theorem delivers_of_carries {start : Live} {chunks : List Chunk}
    (h : Intake.Carries chunks { live := start }) (present : start.chunks.receiverGone = false) :
    start.Delivers chunks where
  begins kept := (h.kept present kept).1.begins
  progress kept := (h.kept present kept).1.progress (h.kept present kept).2.1
  whole kept closed := by
    obtain ⟨carries, present, -⟩ := h.kept present kept
    obtain ⟨empty, closes⟩ := receive_closed closed
    have hwhole := carries.whole present
    have stopped := carries.sender.symm.trans closes
    simpa [empty, Pump.due, stopped] using hwhole
  completes kept := (h.kept present kept).1.exists_end (h.kept present kept).2.1
  bounded := by
    refine ⟨Intake.effort { live := start }, fun actions s kept => ?_⟩
    have hlength := (h.kept present kept).2.2
    omega

/-- No two sequences of chunks are delivered from one start. -/
theorem Delivers.unique {start : Live} {first second : List Chunk} (one : start.Delivers first)
    (other : start.Delivers second) : first = second := by
  have idle : Intake.Kept start [] { live := start } := ⟨rfl, List.not_mem_nil⟩
  obtain ⟨actions, s, keeps, run, taken, closed⟩ := one.completes idle
  exact taken.symm.trans (other.whole ⟨run, keeps⟩ closed)

/-- An answer of two pieces, with a second choice, a comment, a later count of nothing and an end.
It is cut between the two bytes that end a line, and inside lines. -/
def greeting : List Read :=
  [.bytes (Text.utf8 "data: \x7b\"id\":\"1\",\"choices\":["),
    .bytes (Text.utf8 "\x7b\"delta\":\x7b\"content\":\"Hel\"\x7d\x7d,"),
    .bytes (Text.utf8 "\x7b\"delta\":\x7b\"content\":\"Ha\"\x7d\x7d]\x7d\r"),
    .bytes (Text.utf8 "\n: still here\n"),
    .bytes (Text.utf8 "data:\x7b\"choices\":[\x7b\"delta\":\x7b\"content\":\"lo\"\x7d\x7d],"),
    .bytes (Text.utf8 "\"usage\":\x7b\"total_tokens\":7\x7d\x7d\n"),
    .bytes (Text.utf8 "data: \x7b\"choices\":[],\"usage\":\x7b\"total_tokens\":0\x7d\x7d\n"),
    .bytes (Text.utf8 "data: [DONE]\n")]

end Live

end AnswerGateway.Completion
