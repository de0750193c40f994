import AnswerGateway.Proofs.Completion.Intake

/-!
A consumer that leaves. The body of an answer comes in item by item, at its own pace, and need
never end; the pump and the consumer take their steps in between, and the consumer may go at any
moment. From then on the pump takes no more items: wherever it stands, waiting for bytes or for room
in the channel or half-way through the lines of one item, its next step is to stop. Until then the
consumer has been given a first part of what it would have been given had it stayed.
-/

namespace AnswerGateway.Completion

/-- The chunk that a pump puts into the channel by its next step. -/
def Pump.puts? (p : Pump) (chunks : Channel Chunk) : Option Chunk :=
  if p.stopped then none
  else
    match p.outbox with
    | [] => none
    | c :: _ =>
      match chunks.offer c with
      | .accepted _ => some c
      | .full | .closed => none

namespace Pump

variable {p : Pump} {chunks : Channel Chunk}

theorem puts?_of_room {c : Chunk} {rest : List Chunk} (alive : p.stopped = false)
    (next : p.outbox = c :: rest) (present : chunks.receiverGone = false)
    (room : chunks.items.length < chunks.capacity) : p.puts? chunks = some c := by
  simp [puts?, alive, next, Channel.offer, present, room]

theorem puts?_of_empty (empty : p.outbox = []) : p.puts? chunks = none := by
  simp [puts?, empty]

theorem puts?_of_gone (gone : chunks.receiverGone = true) : p.puts? chunks = none := by
  unfold puts?
  split
  · rfl
  · split
    · rfl
    · simp [Channel.offer, gone]

/-- Once the consumer has gone, a pump that has not stopped can only stop, and it can do so at once,
whatever it was doing. -/
theorem step_of_gone (alive : p.stopped = false) (gone : chunks.receiverGone = true) :
    p.step chunks = some (p.stop chunks) := by
  cases hout : p.outbox with
  | nil => simp [step, alive, hout, gone]
  | cons c rest => simp [step, alive, hout, Channel.offer, gone]

end Pump

namespace Reading

theorem reads_append (r : Reading) (first second : List Read) :
    r.reads (first ++ second) =
      ((r.reads first).1 ++ ((r.reads first).2.reads second).1,
        ((r.reads first).2.reads second).2) := by
  induction first generalizing r with
  | nil => rfl
  | cons x rest ih => simp [reads, ih, List.append_assoc]

theorem reads_concat (r : Reading) (xs : List Read) (x : Read) :
    r.reads (xs ++ [x]) =
      ((r.reads xs).1 ++ ((r.reads xs).2.read x).1, ((r.reads xs).2.read x).2) := by
  rw [reads_append]
  simp [reads]

end Reading

theorem chunksOf_begins {first second : List Read} (begins : first <+: second) :
    chunksOf first <+: chunksOf second := by
  obtain ⟨more, rfl⟩ := begins
  rw [chunksOf, chunksOf, Reading.reads_append]
  exact List.prefix_append _ _

/-- Of the chunks that any items make, only the last one can end the answer. -/
theorem not_isTerminal_of_begins {chunks : List Chunk} {reads : List Read}
    (begins : chunks <+: chunksOf reads) : ∀ c ∈ chunks.dropLast, c.isTerminal = false := by
  obtain ⟨texts, last, whole, -⟩ := chunksOf_pieces reads
  have longer := begins.trans (chunksOf_begins (List.prefix_append reads [.ended]))
  rw [whole] at longer
  have texts' : chunks.dropLast <+: texts.map Chunk.ofContent := by
    rcases List.prefix_concat_iff.mp longer with rfl | shorter
    · exact ⟨[], by rw [List.dropLast_concat, List.append_nil]⟩
    · exact (List.dropLast_prefix chunks).trans shorter
  intro c member
  obtain ⟨text, -, rfl⟩ := List.mem_map.mp (texts'.subset member)
  rfl

/-- An intake whose body is coming in, with what the pump has put into the channel so far. -/
structure Inflow where
  intake : Intake
  /-- How many items of the body have come in. -/
  arrived : Nat := 0
  put : List Chunk := []

namespace Inflow

inductive Action where
  /-- The next item of the body comes in. -/
  | arrive
  | own (action : Intake.Action)
  deriving DecidableEq, Repr

abbrev pump (s : Inflow) : Pump := s.intake.live.pump

abbrev channel (s : Inflow) : Channel Chunk := s.intake.live.chunks

/-- The items that have come in and that the pump has not taken. -/
abbrev unread (s : Inflow) : List Read := s.pump.body.reads

abbrev taken (s : Inflow) : List Chunk := s.intake.taken

/-- How many items the pump has taken. -/
def fetched (s : Inflow) : Nat := s.arrived - s.unread.length

/-- A body of which nothing has come in yet. Its end, too, comes in as an item. -/
def opened (capacity : Nat) : Inflow :=
  { intake := { live := .start { reads := [], hangs := true } capacity } }

/-- The first so many items of a body. -/
def upTo (items : Nat → Read) (n : Nat) : List Read := (List.range n).map items

theorem upTo_succ (items : Nat → Read) (n : Nat) :
    upTo items (n + 1) = upTo items n ++ [items n] := by
  rw [upTo, upTo, List.range_succ, List.map_append, List.map_singleton]

def puts? (s : Inflow) : Intake.Action → Option Chunk
  | .pump => s.pump.puts? s.channel
  | .take | .drop => none

section Run

variable (items : Nat → Read)

def arrive (s : Inflow) : Inflow :=
  let body := { s.pump.body with reads := s.unread ++ [items s.arrived] }
  { s with
    intake := { s.intake with live := ⟨{ s.pump with body }, s.channel⟩ }
    arrived := s.arrived + 1 }

/-- The inflow after an action; none if the action cannot happen now. -/
def step? (s : Inflow) : Action → Option Inflow
  | .arrive => some (s.arrive items)
  | .own a => (s.intake.step? a).map fun intake =>
      { s with intake, put := s.put ++ (s.puts? a).toList }

def run? (s : Inflow) (actions : List Action) : Option Inflow :=
  Trace.run? (step? items) s actions

end Run

variable {items : Nat → Read} {s s' : Inflow}

theorem step_own {a : Intake.Action} (h : s.step? items (.own a) = some s') :
    ∃ intake, Intake.Step s.intake a intake ∧
      s' = { s with intake, put := s.put ++ (s.puts? a).toList } := by
  obtain ⟨intake, moved, rfl⟩ := Option.map_eq_some_iff.mp h
  exact ⟨intake, Intake.step_of_step? moved, rfl⟩

/-- Where every item of a body and every chunk made of it is. -/
structure Flowing (items : Nat → Read) (s : Inflow) : Prop where
  hangs : s.pump.body.hangs = true
  room : 0 < s.channel.capacity
  sender : s.channel.senderGone = s.pump.stopped
  known : s.unread.length ≤ s.arrived
  unread : s.unread = (List.range' s.fetched s.unread.length).map items
  reading : s.pump.reading = (({} : Reading).reads (upTo items s.fetched)).2
  /-- What the pump has read and not put into the channel it has before it. -/
  whole : s.pump.stopped = false → s.put ++ s.pump.outbox = chunksOf (upTo items s.fetched)
  put : s.put <+: chunksOf (upTo items s.fetched)
  begins : s.taken <+: s.put
  /-- What was put there and not taken is there, as long as the consumer is. -/
  present : s.channel.receiverGone = false → s.taken ++ s.channel.items = s.put
  /-- While the consumer is there, a pump stops only when the answer is complete. -/
  ended : s.pump.stopped = true → s.channel.receiverGone = false →
    s.pump.reading.complete = true ∧ s.put = chunksOf (upTo items s.fetched)

theorem flowing_opened (items : Nat → Read) (capacity : Nat) : (opened capacity).Flowing items where
  hangs := rfl
  room := Nat.le_max_right capacity 1
  sender := rfl
  known := Nat.le_refl 0
  unread := rfl
  reading := rfl
  whole _ := rfl
  put := List.nil_prefix
  begins := List.nil_prefix
  present _ := rfl
  ended stopped := by cases stopped

@[simp]
theorem unread_arrive (s : Inflow) : (s.arrive items).unread = s.unread ++ [items s.arrived] := rfl

@[simp]
theorem arrived_arrive (s : Inflow) : (s.arrive items).arrived = s.arrived + 1 := rfl

@[simp]
theorem fetched_arrive (s : Inflow) : (s.arrive items).fetched = s.fetched := by
  rw [fetched, fetched, unread_arrive, arrived_arrive, List.length_append, List.length_singleton,
    Nat.add_sub_add_right]

theorem Flowing.arrive (h : s.Flowing items) : (s.arrive items).Flowing items := by
  have fetched : (s.arrive items).fetched = s.fetched := fetched_arrive s
  refine ⟨h.hangs, h.room, h.sender, ?_, ?_, fetched ▸ h.reading, fetched ▸ h.whole,
    fetched ▸ h.put, h.begins, h.present, fetched ▸ h.ended⟩
  · rw [unread_arrive, arrived_arrive, List.length_append, List.length_singleton]
    exact Nat.succ_le_succ h.known
  · have last : s.fetched + s.unread.length = s.arrived := Nat.sub_add_cancel h.known
    rw [fetched, unread_arrive, List.length_append, List.length_singleton, List.range'_1_concat,
      List.map_append, ← h.unread, last, List.map_singleton]

/-- The inflow after the pump has taken an item, with the rest of the body. -/
def read (s : Inflow) (x : Read) (body : Body) : Inflow :=
  let pump := { s.pump with
    reading := (s.pump.reading.read x).2
    outbox := (s.pump.reading.read x).1
    body }
  { s with intake := { s.intake with live := ⟨pump, s.channel⟩ } }

/-- An item that has come in and is next is the one behind those that were taken. -/
theorem Flowing.next {x : Read} {body : Body} (h : s.Flowing items)
    (next : s.pump.body.next = some (x, body)) :
    x = items s.fetched ∧ (s.read x body).fetched = s.fetched + 1 ∧
      body.hangs = true ∧ body.reads.length ≤ s.arrived ∧
      body.reads = (List.range' (s.fetched + 1) body.reads.length).map items := by
  have known := h.known
  have place := h.unread
  unfold Body.next at next
  split at next
  · rename_i y rest reads
    cases next
    have unread : s.unread = x :: rest := reads
    rw [unread, List.length_cons] at known place
    rw [List.range'_succ, List.map_cons, List.cons.injEq] at place
    refine ⟨place.1, ?_, h.hangs, Nat.le_of_succ_le known, place.2⟩
    change s.arrived - rest.length = s.fetched + 1
    rw [fetched, unread, List.length_cons]
    omega
  · rw [if_pos h.hangs] at next
    cases next

theorem Flowing.read {x : Read} {body : Body} (h : s.Flowing items)
    (alive : s.pump.stopped = false) (empty : s.pump.outbox = [])
    (next : s.pump.body.next = some (x, body)) : (s.read x body).Flowing items := by
  obtain ⟨rfl, fetched, hangs, known, unread⟩ := h.next next
  have reads := Reading.reads_concat {} (upTo items s.fetched) (items s.fetched)
  rw [← upTo_succ, ← h.reading] at reads
  have whole : s.put ++ (s.pump.reading.read (items s.fetched)).1 =
      chunksOf (upTo items (s.fetched + 1)) := by
    have before := h.whole alive
    rw [empty, List.append_nil] at before
    rw [before, chunksOf, chunksOf, reads]
  refine ⟨hangs, h.room, h.sender, known, ?_, ?_, ?_, ?_, h.begins, h.present, ?_⟩
  · rw [fetched]
    exact unread
  · rw [fetched, reads]
    rfl
  · rw [fetched]
    exact fun _ => whole
  · rw [fetched]
    exact ⟨_, whole⟩
  · intro stopped
    cases alive.symm.trans stopped

theorem Flowing.pumped {pump : Pump} {chunks : Channel Chunk} (h : s.Flowing items)
    (alive : s.pump.stopped = false) (moves : Pump.Step s.pump s.channel pump chunks) :
    Flowing items { s with
      intake := { s.intake with live := ⟨pump, chunks⟩ }
      put := s.put ++ (s.puts? .pump).toList } := by
  cases moves with
  | @offered c rest next present room =>
      rw [puts?, Pump.puts?_of_room alive next present room]
      have whole := h.whole alive
      rw [next, List.append_cons] at whole
      refine ⟨h.hangs, h.room, h.sender, h.known, h.unread, h.reading, fun _ => whole,
        ⟨_, whole⟩, h.begins.trans (List.prefix_append _ _), ?_, ?_⟩
      · intro _
        exact (List.append_assoc _ _ _).symm.trans (congrArg (· ++ [c]) (h.present present))
      · intro stopped
        cases alive.symm.trans stopped
  | stopped why =>
      have puts : s.pump.puts? s.channel = none := by
        rcases why with ⟨empty, -⟩ | gone
        · exact Pump.puts?_of_empty empty
        · exact Pump.puts?_of_gone gone
      rw [puts?, puts, Option.toList_none, List.append_nil]
      refine ⟨h.hangs, h.room, rfl, h.known, h.unread, h.reading, ?_, h.put, h.begins,
        h.present, ?_⟩
      · intro alive
        cases alive
      · intro _ present
        rcases why with ⟨empty, complete⟩ | gone
        · have whole := h.whole alive
          rw [empty, List.append_nil] at whole
          exact ⟨complete, whole⟩
        · cases gone.symm.trans present
  | read empty progress present next =>
      rw [puts?, Pump.puts?_of_empty empty, Option.toList_none, List.append_nil]
      exact h.read alive empty next

/-- Every step keeps account of the items and of the chunks. -/
theorem flowing_step {a : Action} (h : s.Flowing items) (step : s.step? items a = some s') :
    s'.Flowing items := by
  cases a with
  | arrive =>
      cases step
      exact h.arrive
  | own a =>
      obtain ⟨intake, moved, rfl⟩ := step_own step
      cases moved with
      | pumped alive moves => exact h.pumped alive moves
      | @taken c rest present next =>
          have whole := h.present present
          rw [next, List.append_cons] at whole
          rw [puts?, Option.toList_none, List.append_nil]
          exact ⟨h.hangs, h.room, h.sender, h.known, h.unread, h.reading, h.whole, h.put,
            ⟨_, whole⟩, fun _ => whole, h.ended⟩
      | dropped =>
          rw [puts?, Option.toList_none, List.append_nil]
          refine ⟨h.hangs, h.room, h.sender, h.known, h.unread, h.reading, h.whole, h.put,
            h.begins, ?_, ?_⟩
          · intro present
            cases present
          · intro _ present
            cases present

theorem flowing_run {start : Inflow} {actions : List Action} (h : start.Flowing items)
    (run : start.run? items actions = some s) : s.Flowing items :=
  Trace.induction (motive := fun _ s => s.Flowing items) h
    (fun _ _ _ _ before step => flowing_step before step) run

/-! A consumer that has gone. -/

theorem gone_step {a : Action} (step : s.step? items a = some s') :
    s'.channel.receiverGone = (s.channel.receiverGone || decide (a = .own .drop)) := by
  cases a with
  | arrive =>
      cases step
      exact (Bool.or_false _).symm
  | own a =>
      obtain ⟨intake, moved, rfl⟩ := step_own step
      cases moved with
      | pumped alive moves => cases moves <;> exact (Bool.or_false _).symm
      | taken => exact (Bool.or_false _).symm
      | dropped => exact (Bool.or_true _).symm

/-- The consumer has gone exactly if it went in the course of the run. -/
theorem gone_run {capacity : Nat} {actions : List Action}
    (run : (opened capacity).run? items actions = some s) :
    s.channel.receiverGone = true ↔ .own .drop ∈ actions := by
  refine Trace.induction (motive := fun actions s => s.channel.receiverGone = true ↔
    .own .drop ∈ actions) ?_ ?_ run
  · exact iff_of_false Bool.false_ne_true List.not_mem_nil
  · intro actions s a s' ih step
    rw [gone_step step, Bool.or_eq_true, decide_eq_true_eq, ih, List.mem_append,
      List.mem_singleton, eq_comm (a := a)]

/-- After the consumer has gone, nothing is taken from the body and nothing put into the channel,
and a step of the pump is its last. -/
theorem left_step {a : Action} (gone : s.channel.receiverGone = true)
    (step : s.step? items a = some s') :
    s'.fetched = s.fetched ∧ s'.put = s.put ∧ s'.taken = s.taken ∧
      (a = .own .pump → s.pump.stopped = false ∧ s'.pump.stopped = true) ∧
      (s.pump.stopped = true → s'.pump.stopped = true) := by
  cases a with
  | arrive =>
      cases step
      exact ⟨fetched_arrive s, rfl, rfl, nofun, id⟩
  | own a =>
      obtain ⟨intake, moved, rfl⟩ := step_own step
      cases moved with
      | pumped alive moves =>
          rw [puts?, Pump.puts?_of_gone gone, Option.toList_none, List.append_nil]
          cases moves with
          | offered next present room => cases gone.symm.trans present
          | stopped why => exact ⟨rfl, rfl, rfl, fun _ => ⟨alive, rfl⟩, fun _ => rfl⟩
          | read empty progress present next => cases gone.symm.trans present
      | taken present next => cases gone.symm.trans present
      | dropped =>
          rw [puts?, Option.toList_none, List.append_nil]
          exact ⟨rfl, rfl, rfl, nofun, id⟩

theorem left_run {later : List Action} (gone : s.channel.receiverGone = true)
    (run : s.run? items later = some s') :
    s'.channel.receiverGone = true ∧ s'.fetched = s.fetched ∧ s'.put = s.put ∧
      s'.taken = s.taken ∧ later.count (.own .pump) ≤ if s'.pump.stopped then 1 else 0 := by
  refine Trace.induction (motive := fun later s' => s'.channel.receiverGone = true ∧
    s'.fetched = s.fetched ∧ s'.put = s.put ∧ s'.taken = s.taken ∧
      later.count (.own .pump) ≤ if s'.pump.stopped then 1 else 0) ?_ ?_ run
  · exact ⟨gone, rfl, rfl, rfl, Nat.zero_le _⟩
  · rintro later now a next ⟨gone, fetched, put, taken, once⟩ step
    obtain ⟨fetched', put', taken', last, stays⟩ := left_step gone step
    refine ⟨by rw [gone_step step, gone, Bool.true_or], fetched'.trans fetched, put'.trans put,
      taken'.trans taken, ?_⟩
    rw [List.count_append, List.count_singleton]
    by_cases pumps : a = .own .pump
    · obtain ⟨alive, stopped⟩ := last pumps
      rw [alive] at once
      simpa [pumps, stopped] using once
    · cases stopped : now.pump.stopped with
      | true =>
          rw [stopped] at once
          simpa [pumps, stays stopped] using once
      | false =>
          rw [stopped] at once
          have none : later.count (.own .pump) = 0 := Nat.le_zero.mp once
          simp [pumps, none]

/-- A pump whose consumer has gone stops when it is its turn, whatever it was doing. -/
theorem exists_stop (gone : s.channel.receiverGone = true) (alive : s.pump.stopped = false) :
    ∃ s', s.step? items (.own .pump) = some s' ∧ s'.pump.stopped = true := by
  have moved : s.intake.step? .pump = some { s.intake with
      live := ⟨(s.pump.stop s.channel).1, (s.pump.stop s.channel).2⟩ } := by
    rw [Intake.step?, Intake.pump?, Pump.step_of_gone alive gone]
    rfl
  exact ⟨_, congrArg (Option.map _) moved, rfl⟩

/-! A consumer that stays. -/

theorem Flowing.given (h : s.Flowing items) : s.taken <+: chunksOf (upTo items s.fetched) :=
  h.begins.trans h.put

theorem upTo_begins (items : Nat → Read) {n m : Nat} (fewer : n ≤ m) :
    upTo items n <+: upTo items m := by
  obtain ⟨more, rfl⟩ := Nat.exists_eq_add_of_le fewer
  rw [upTo, upTo, List.range_add, List.map_append]
  exact List.prefix_append _ _

/-- Two consumers of one body are given the same, one of them perhaps less of it. -/
theorem Flowing.comparable (h : s.Flowing items) (other : s'.Flowing items) :
    s.taken <+: s'.taken ∨ s'.taken <+: s.taken := by
  have first := chunksOf_begins (upTo_begins items (Nat.le_max_left s.fetched s'.fetched))
  have second := chunksOf_begins (upTo_begins items (Nat.le_max_right s.fetched s'.fetched))
  exact List.prefix_or_prefix_of_prefix (h.given.trans first) (other.given.trans second)

/-- The consumer has been given whatever the items that have come in will ever give. -/
def Settled (items : Nat → Read) (s : Inflow) : Prop :=
  s.taken = chunksOf (upTo items s.fetched) ∧
    (s.unread = [] ∨ s.pump.reading.complete = true)

/-- Then it has been given what any earlier items of the body can give. -/
theorem Flowing.prefix_of_settled {n : Nat} (h : s.Flowing items) (settled : s.Settled items)
    (came : n ≤ s.arrived) : chunksOf (upTo items n) <+: s.taken := by
  obtain ⟨taken, rest⟩ := settled
  rw [taken]
  by_cases old : n ≤ s.fetched
  · exact chunksOf_begins (upTo_begins items old)
  · -- The pump has not taken them all, so the answer was complete without them.
    have complete : s.pump.reading.complete = true := by
      rcases rest with empty | complete
      · rw [fetched, empty] at old
        exact absurd came old
      · exact complete
    obtain ⟨more, items'⟩ := upTo_begins items (Nat.le_of_not_le old)
    rw [h.reading] at complete
    rw [← items', chunksOf, chunksOf, Reading.reads_append, Reading.reads_complete _ complete]
    simp only [List.append_nil, List.prefix_refl]

/-- While the consumer is there, it has been given all that has come in, or one of the two can
move. -/
theorem Flowing.progress (h : s.Flowing items) (present : s.channel.receiverGone = false) :
    s.Settled items ∨ ∃ a, a ≠ .drop ∧ (s.intake.step? a).isSome = true := by
  have put := h.present present
  cases waiting : s.channel.items with
  | cons c rest =>
      refine .inr ⟨.take, by decide, ?_⟩
      simp [Intake.step?, Intake.take?, receive, Channel.take, present, waiting]
  | nil =>
      rw [waiting, List.append_nil] at put
      cases stopped : s.pump.stopped with
      | true =>
          obtain ⟨complete, whole⟩ := h.ended stopped present
          exact .inl ⟨put.trans whole, .inr complete⟩
      | false =>
          have whole := h.whole stopped
          cases outbox : s.pump.outbox with
          | cons c rest =>
              refine .inr ⟨.pump, by decide, ?_⟩
              simp [Intake.step?, Intake.pump?, Pump.step, stopped, outbox, Channel.offer, present,
                waiting, h.room]
          | nil =>
              rw [outbox, List.append_nil] at whole
              cases complete : s.pump.reading.complete with
              | true => exact .inl ⟨put.trans whole, .inr complete⟩
              | false =>
                  cases unread : s.unread with
                  | nil => exact .inl ⟨put.trans whole, .inl unread⟩
                  | cons x rest =>
                      refine .inr ⟨.pump, by decide, ?_⟩
                      simp [Intake.step?, Intake.pump?, Pump.step, stopped, outbox, complete,
                        present, Body.next, unread]

/-- Pump and consumer alone bring it there. -/
theorem Flowing.exists_settled (h : s.Flowing items) (present : s.channel.receiverGone = false) :
    ∃ more s', .own .drop ∉ more ∧ s.run? items more = some s' ∧ s'.Flowing items ∧
      s'.arrived = s.arrived ∧ s'.Settled items := by
  -- The induction is on what the two still have to do, of which every step does some.
  induction heffort : s.intake.effort using Nat.strongRecOn generalizing s with
  | ind effort ih =>
      rcases h.progress present with settled | ⟨a, keeps, moves⟩
      · exact ⟨[], s, List.not_mem_nil, rfl, h, rfl, settled⟩
      · obtain ⟨intake, moved⟩ := Option.isSome_iff_exists.mp moves
        have step : s.step? items (.own a) = some { s with
            intake, put := s.put ++ (s.puts? a).toList } := congrArg (Option.map _) moved
        have less := heffort ▸ Intake.effort_step keeps (Intake.step_of_step? moved)
        have there := gone_step step
        have other : (Action.own a = .own .drop) = False := by simpa using keeps
        rw [present, Bool.false_or, decide_eq_false (other ▸ id)] at there
        obtain ⟨more, s', stays, run, flowing, arrived, settled⟩ :=
          ih intake.effort less (flowing_step h step) there rfl
        refine ⟨.own a :: more, s', ?_, (Trace.run?_cons _).mpr ⟨_, step, run⟩, flowing, arrived,
          settled⟩
        rw [List.mem_cons, not_or]
        exact ⟨fun same => keeps (Action.own.inj same).symm, stays⟩

theorem Flowing.exists_arrived (h : s.Flowing items) (n : Nat) :
    ∃ s', s.run? items (List.replicate n .arrive) = some s' ∧ s'.Flowing items ∧
      s'.channel = s.channel ∧ s'.arrived = s.arrived + n := by
  induction n generalizing s with
  | zero => exact ⟨s, rfl, h, rfl, rfl⟩
  | succ n ih =>
      obtain ⟨s', run, flowing, channel, arrived⟩ := ih h.arrive
      refine ⟨s', (Trace.run?_cons _).mpr ⟨_, rfl, run⟩, flowing, channel, ?_⟩
      rw [arrived, arrived_arrive, Nat.add_assoc, Nat.add_comm 1 n]

/-- A consumer that stays is given what any items of the body can give, once these have come in. -/
theorem Flowing.exists_given (h : s.Flowing items) (present : s.channel.receiverGone = false)
    (n : Nat) : ∃ more s', .own .drop ∉ more ∧ s.run? items more = some s' ∧
      chunksOf (upTo items n) <+: s'.taken := by
  obtain ⟨s₁, run₁, flowing₁, channel, arrived₁⟩ := h.exists_arrived n
  obtain ⟨more, s₂, stays, run₂, flowing₂, arrived₂, settled⟩ :=
    flowing₁.exists_settled (channel ▸ present)
  have came : n ≤ s₂.arrived := by omega
  refine ⟨List.replicate n .arrive ++ more, s₂, ?_, ?_, flowing₂.prefix_of_settled settled came⟩
  · rw [List.mem_append, not_or]
    exact ⟨fun member => absurd (List.eq_of_mem_replicate member) (by decide), stays⟩
  · rw [run?, Trace.run?_append]
    exact Option.bind_eq_some_iff.mpr ⟨s₁, run₁, run₂⟩

/-- Whatever a body is, at whatever pace it comes in and however pump and consumer take turns:

What the consumer has been given is a first part of what was put into the channel, which is made of
the items that the pump has taken, and of that only the last chunk can end the answer. Had the
consumer stayed, it would be given the same: in a run in which it stays it is never given anything
else, and every such run goes on to where it has been given as much.

Once it has gone, the pump takes no more items and puts nothing into the channel. It takes at most
one step more, to stop, and at every moment until then it can take it. -/
theorem run_leaving {capacity : Nat} {actions : List Action}
    (run : (opened capacity).run? items actions = some s) :
    (s.taken <+: s.put ∧ s.put <+: chunksOf (upTo items s.fetched) ∧
      ∀ c ∈ s.put.dropLast, c.isTerminal = false) ∧
    (∀ room stays t, (opened room).run? items stays = some t → .own .drop ∉ stays →
      (s.taken <+: t.taken ∨ t.taken <+: s.taken) ∧
        ∃ more t', .own .drop ∉ more ∧ t.run? items more = some t' ∧ s.taken <+: t'.taken) ∧
    (.own .drop ∈ actions → ∀ later s', s.run? items later = some s' →
      s'.fetched = s.fetched ∧ s'.put = s.put ∧ s'.taken = s.taken ∧
        later.count (.own .pump) ≤ 1 ∧
        (s'.pump.stopped = false →
          ∃ last, s'.step? items (.own .pump) = some last ∧ last.pump.stopped = true)) := by
  have flowing := flowing_run (flowing_opened items capacity) run
  refine ⟨⟨flowing.begins, flowing.put, not_isTerminal_of_begins flowing.put⟩, ?_, ?_⟩
  · intro room stays t run' none
    have other := flowing_run (flowing_opened items room) run'
    have present : t.channel.receiverGone = false := by
      rw [← Bool.not_eq_true, gone_run run']
      exact none
    obtain ⟨more, t', keeps, goesOn, given⟩ := other.exists_given present s.fetched
    exact ⟨flowing.comparable other, more, t', keeps, goesOn, flowing.given.trans given⟩
  · intro went later s' goesOn
    obtain ⟨gone, fetched, put, taken, once⟩ := left_run ((gone_run run).mpr went) goesOn
    refine ⟨fetched, put, taken, ?_, exists_stop gone⟩
    split at once
    · exact once
    · exact Nat.le_succ_of_le once

/-- An endless body, each item of which brings three pieces of text in three lines. -/
def ticking (_ : Nat) : Read :=
  let line := "data: \x7b\"choices\":[\x7b\"delta\":\x7b\"content\":\"tick\"\x7d\x7d]\x7d\n"
  .bytes (line ++ line ++ line).toUTF8.toList

/-- The consumer takes one piece and goes while the next is in the channel, which is full, and the
third waits for room. A second item has come in; it is never taken. -/
theorem run_leaving_ticking :
    ∃ s, (opened 1).run? ticking [.arrive, .arrive, .own .pump, .own .pump, .own .take, .own .pump,
        .own .drop] = some s ∧
      s.taken = [.ofContent "tick"] ∧ s.pump.outbox = [.ofContent "tick"] ∧
      s.unread.length = 1 ∧
      ∀ later s', s.run? ticking later = some s' →
        s'.fetched = 1 ∧ s'.taken = [.ofContent "tick"] ∧ later.count (.own .pump) ≤ 1 := by
  have happens : ((opened 1).run? ticking [.arrive, .arrive, .own .pump, .own .pump, .own .take,
      .own .pump, .own .drop]).map (fun s => (s.taken, s.pump.outbox, s.unread.length, s.fetched)) =
        some ([.ofContent "tick"], [.ofContent "tick"], 1, 1) := by
    decide +kernel
  obtain ⟨s, run, facts⟩ := Option.map_eq_some_iff.mp happens
  simp only [Prod.mk.injEq] at facts
  obtain ⟨taken, outbox, unread, fetched⟩ := facts
  obtain ⟨-, -, left⟩ := run_leaving run
  refine ⟨s, run, taken, outbox, unread, fun later s' goesOn => ?_⟩
  obtain ⟨fetched', -, taken', once, -⟩ := left (by decide) later s' goesOn
  exact ⟨fetched'.trans fetched, taken'.trans taken, once⟩

end Inflow

end AnswerGateway.Completion
