import AnswerGateway.Proofs.Relay.Progress
import AnswerGateway.Proofs.Relay.Submission
import Mathlib.Algebra.Order.Floor.Div

/-!
The replay of a kept answer. The answer is cut into pieces of one length, of which only the last can
be shorter, and the client is sent the pieces and then the two marks of the end. Whenever it leaves,
it has been sent the beginning of that; it is sent all of it if it stays, and then only the run
counts as completed. A replay counts no tokens and submits nothing to the cache.
-/

namespace AnswerGateway.Relay

/-- Whether these are the pieces of a text, each of them of that many characters. -/
structure IsCut (text : String) (size : Nat) (pieces : List String) : Prop where
  joined : String.join pieces = text
  count : pieces.length = text.length ⌈/⌉ size
  full : ∀ piece ∈ pieces.dropLast, piece.length = size
  /-- The last piece can be shorter, but it is not empty. -/
  last : ∀ piece ∈ pieces.getLast?, 0 < piece.length ∧ piece.length ≤ size

namespace IsCut

theorem nothing (size : Nat) : IsCut "" size [] where
  joined := rfl
  count := by simp
  full := fun piece member => nomatch member
  last := fun piece member => nomatch member

theorem remainder {piece : String} {size : Nat} (nonempty : 0 < piece.length)
    (fits : piece.length ≤ size) : IsCut piece size [piece] where
  joined := by simp
  count := by
    rw [Nat.ceilDiv_eq_add_pred_div, List.length_singleton]
    exact (Nat.div_eq_of_lt_le (by omega) (by omega)).symm
  full := fun other member => nomatch member
  last := fun other member => by
    obtain rfl : piece = other := Option.some.inj member
    exact ⟨nonempty, fits⟩

theorem cons {piece text : String} {size : Nat} {rest : List String} (positive : 0 < size)
    (full : piece.length = size) (h : IsCut text size rest) :
    IsCut (piece ++ text) size (piece :: rest) where
  joined := by rw [String.join_cons, h.joined]
  count := by
    have behind : piece.length + text.length + size - 1 = text.length + size - 1 + size := by omega
    rw [List.length_cons, h.count, Nat.ceilDiv_eq_add_pred_div, Nat.ceilDiv_eq_add_pred_div,
      String.length_append, behind, Nat.add_div_right _ positive]
  full := by
    cases rest with
    | nil => exact fun other member => nomatch member
    | cons next more =>
        rw [List.dropLast_cons_cons]
        exact List.forall_mem_cons.mpr ⟨full, h.full⟩
  last := by
    cases rest with
    | nil =>
        intro other member
        obtain rfl : piece = other := Option.some.inj member
        exact ⟨full ▸ positive, full.le⟩
    | cons next more =>
        rw [List.getLast?_cons_cons]
        exact h.last

end IsCut

/-- The groups of characters, the one that is being filled included, cut what they are made of. -/
theorem isCut_groupsFrom {size : Nat} (positive : 0 < size) (text group : List Char) {room : Nat}
    (open? : 0 < room) (filled : room + group.length = size) :
    IsCut (String.ofList (group.reverse ++ text)) size
      ((groupsFrom size text room group).map String.ofList) := by
  induction text generalizing room group with
  | nil =>
      unfold groupsFrom
      cases group with
      | nil => exact .nothing size
      | cons c before =>
          rw [List.append_nil]
          refine .remainder ?_ ?_
          · simp
          · simp only [String.length_ofList, List.length_reverse]
            omega
  | cons c rest ih =>
      have regroup : group.reverse ++ c :: rest = (c :: group).reverse ++ rest := by simp
      rw [regroup]
      unfold groupsFrom
      split
      · have full : (String.ofList (c :: group).reverse).length = size := by
          rw [String.length_ofList, List.length_reverse, List.length_cons]
          omega
        rw [String.ofList_append, List.map_cons]
        exact (ih [] positive rfl).cons positive full
      · refine ih (c :: group) (by omega) ?_
        rw [List.length_cons]
        omega

/-- A text is cut into pieces of a given size; a size of zero counts as one. -/
theorem isCut_pieces (text : String) (size : Nat) :
    IsCut text (max size 1) (pieces text size) := by
  have positive : 0 < max size 1 := Nat.le_max_right size 1
  have cut := isCut_groupsFrom positive text.toList [] positive rfl
  rwa [List.reverse_nil, List.nil_append, String.ofList_toList] at cut

theorem Run.endWithout_kept {r : Run} (source : r.source = .cache) (f : Frame) :
    r.endWithout f = r.finish .clientGone 0 := by
  rcases r.endWithout_eq f with left | ⟨-, provider, -⟩
  · exact left
  · rw [source] at provider
    cases provider

/-- A client is there as long as it has not left. -/
theorem Passage.present_iff {p : Passage} : p.Present ↔ ¬p.ClientLeft := by
  simp [Present, ClientLeft]

namespace Account

variable {frames : List Frame} {s : Account} {a : Passage.Action} {after : Passage}

/-- What holds of the account of every run that replays these frames. -/
structure Replaying (frames : List Frame) (s : Account) : Prop where
  source : s.passage.path.run.source = .cache
  following : s.passage.path.run.following = .complete 0
  room : 0 < s.passage.path.frames.capacity
  alive : s.passage.path.run.outcome = none → s.sent ++ s.passage.path.run.pending = frames
  ended : ∀ o, s.passage.path.run.outcome = some o → o.tokenUsage = 0 ∧
    (o.termination = .completed ∧ s.sent = frames ∨
      o.termination = .clientGone ∧ s.passage.ClientLeft ∧ s.sent <+: frames ∧ s.sent ≠ frames)

/-- A step that is not one of the run leaves the replay where it is. -/
theorem Replaying.aside (h : s.Replaying frames) (notRun : a ≠ .run)
    (same : after.path.run = s.passage.path.run)
    (room : after.path.frames.capacity = s.passage.path.frames.capacity)
    (left : s.passage.ClientLeft → after.ClientLeft) : (s.enter a after).Replaying frames := by
  have sent : (s.enter a after).sent = s.sent := by simp [enter, notRun]
  constructor
  case source => exact same ▸ h.source
  case following => exact same ▸ h.following
  case room => exact room ▸ h.room
  case alive =>
    intro alive
    rw [sent]
    exact same ▸ h.alive (same ▸ alive)
  case ended =>
    intro o ended
    rw [sent]
    obtain ⟨tokens, completed | ⟨gone, hasLeft, rest⟩⟩ := h.ended o (same ▸ ended)
    · exact ⟨tokens, .inl completed⟩
    · exact ⟨tokens, .inr ⟨gone, left hasLeft, rest⟩⟩

/-- The step by which the run ends hands nothing over. -/
theorem Replaying.ending (h : s.Replaying frames) {termination : Termination}
    (ends : termination = .completed ∧ s.sent = frames ∨
      termination = .clientGone ∧ s.passage.ClientLeft ∧ s.sent <+: frames ∧ s.sent ≠ frames) :
    (s.enter .run { s.passage with
      path := s.passage.path.endRun (s.passage.path.run.finish termination 0) }).Replaying
        frames := by
  have sent : (s.enter .run { s.passage with
      path := s.passage.path.endRun (s.passage.path.run.finish termination 0) }).sent =
        s.sent := by
    simp [enter, Path.endRun]
  constructor
  case source => exact h.source
  case following => exact h.following
  case room => exact h.room
  case alive =>
    intro alive
    cases alive
  case ended =>
    intro o ended
    cases ended
    rw [sent]
    exact ⟨rfl, ends⟩

theorem replaying_step (h : s.Replaying frames) (step : Passage.Step s.passage a after) :
    (s.enter a after).Replaying frames := by
  have later := fun left => Passage.clientLeft_step left step
  cases step with
  | offered | stopped | read | taken | cancelled | closed | fed | hungUp =>
      exact h.aside (fun isRun => nomatch isRun) rfl rfl later
  | @handed f rest alive next stays present room =>
      have sent := h.alive alive
      rw [next] at sent
      refine ⟨h.source, h.following, h.room, fun _ => ?_, ?_⟩
      · simpa [enter] using sent
      · intro o ended
        simp [enter, alive] at ended
  | @lost f rest alive next gone =>
      have sent := h.alive alive
      rw [next] at sent
      rw [Run.endWithout_kept h.source]
      refine h.ending (.inr ⟨rfl, gone, ?_, ?_⟩)
      · exact ⟨f :: rest, sent⟩
      · rw [← sent]
        simp
  | @completed tokens alive empty last =>
      have sent := h.alive alive
      rw [empty, List.append_nil] at sent
      obtain rfl : 0 = tokens := Following.complete.inj (h.following.symm.trans last)
      exact h.ending (.inl ⟨rfl, sent⟩)
  | left alive empty more | took alive empty more | failed alive empty more
  | unterminated alive empty more =>
      -- A replay never waits for chunks.
      rw [h.following] at more
      cases more

/-- A run whose client has left ends with its next step and hands nothing more over. -/
theorem Replaying.stops (h : s.Replaying frames) (alive : s.passage.path.run.outcome = none)
    (left : s.passage.ClientLeft) :
    ∃ s', s.step? .run = some s' ∧ s'.sent = s.sent ∧
      s'.passage.path.run.outcome.isSome = true := by
  have moves : (s.passage.step? .run).isSome = true := by
    simp only [Passage.step?, Passage.advance?, Path.runStep, Run.step, alive]
    cases pending : s.passage.path.run.pending with
    | nil => simp [h.following]
    | cons f rest =>
        rcases left with cancelled | gone
        · simp [cancelled]
        · cases s.passage.path.cancelled <;> simp [Channel.offer, gone]
  obtain ⟨after, moved⟩ := Option.isSome_iff_exists.mp moves
  refine ⟨s.enter .run after, by rw [step?, moved]; rfl, ?_⟩
  cases Passage.step_of_step? moved with
  | handed alive next stays present room =>
      rcases left with cancelled | gone
      · rw [stays] at cancelled
        cases cancelled
      · rw [present] at gone
        cases gone
  | @lost f => exact ⟨by simp [enter, Path.endRun], Run.endWithout_outcome_isSome _ f⟩
  | completed => exact ⟨by simp [enter, Path.endRun], rfl⟩
  | left alive empty more | took alive empty more | failed alive empty more
  | unterminated alive empty more =>
      rw [h.following] at more
      cases more

/-- While the client is there, the run or the client can move on. -/
theorem Replaying.moves (h : s.Replaying frames) (alive : s.passage.path.run.outcome = none)
    (present : s.passage.Present) :
    ∃ a, (a = .run ∨ a = .take) ∧ (s.passage.step? a).isSome = true := by
  obtain ⟨stays, open?⟩ := present
  cases items : s.passage.path.frames.items with
  | cons f rest =>
      refine ⟨.take, .inr rfl, ?_⟩
      simp [Passage.step?, Passage.take?, Completion.receive, Channel.take, open?, items]
  | nil =>
      refine ⟨.run, .inl rfl, ?_⟩
      simp only [Passage.step?, Passage.advance?, Path.runStep, Run.step, alive]
      cases pending : s.passage.path.run.pending with
      | nil => simp [h.following]
      | cons f rest => simp [stays, open?, Channel.offer, items, h.room]

/-- What of a replay is still to be done by the run and by the client. -/
def toDo (s : Account) : Nat :=
  2 * s.passage.path.run.pending.length + s.passage.path.frames.items.length +
    (if s.passage.path.run.outcome.isSome then 0 else 1)

theorem Replaying.toDo_step (h : s.Replaying frames) (work : a = .run ∨ a = .take)
    (step : Passage.Step s.passage a after) : (s.enter a after).toDo < s.toDo := by
  cases step with
  | handed alive next =>
      simp only [toDo, enter, alive, next, List.length_append, List.length_cons, List.length_nil]
      omega
  | @lost f rest alive next =>
      rw [Run.endWithout_kept h.source]
      simp only [toDo, enter, Path.endRun, Run.finish, alive, next, Channel.dropSender_items,
        List.length_cons, List.length_nil, Option.isSome_some, Option.isSome_none, if_true,
        Bool.false_eq_true, if_false]
      omega
  | completed alive empty =>
      simp [toDo, enter, Path.endRun, Run.finish, alive, empty]
  | taken present next =>
      simp only [toDo, enter, next, List.length_cons]
      omega
  | left alive empty more | took alive empty more | failed alive empty more
  | unterminated alive empty more =>
      rw [h.following] at more
      cases more
  | offered | stopped | read | cancelled | closed | fed | hungUp =>
      rcases work with run | take
      · cases run
      · cases take

/-- Run and client alone bring a replay to its end. -/
theorem Replaying.exists_end (h : s.Replaying frames) (present : s.passage.Present) :
    ∃ more s' o, (∀ a ∈ more, a = .run ∨ a = .take) ∧ s.run? more = some s' ∧
      s'.passage.path.run.outcome = some o ∧ s'.sent = frames := by
  -- The induction is on what is still to be done, of which every step does some.
  induction hdo : s.toDo using Nat.strongRecOn generalizing s with
  | ind amount ih =>
      cases outcome : s.passage.path.run.outcome with
      | some o =>
          refine ⟨[], s, o, by simp, rfl, outcome, ?_⟩
          rcases (h.ended o outcome).2 with ⟨-, all⟩ | ⟨-, left, -⟩
          · exact all
          · exact absurd left (Passage.present_iff.mp present)
      | none =>
          obtain ⟨a, work, moves⟩ := h.moves outcome present
          obtain ⟨after, moved⟩ := Option.isSome_iff_exists.mp moves
          have step := Passage.step_of_step? moved
          have stays : a.leaves = false := by rcases work with rfl | rfl <;> rfl
          obtain ⟨more, s', o, allWork, run, ends⟩ :=
            ih (s.enter a after).toDo (hdo ▸ h.toDo_step work step) (replaying_step h step)
              (Passage.present_step present stays step) rfl
          refine ⟨a :: more, s', o, List.forall_mem_cons.mpr ⟨work, allWork⟩, ?_, ends⟩
          exact (Trace.run?_cons _).mpr ⟨s.enter a after, by rw [step?, moved]; rfl, run⟩

/-- What is promised of a replay of these frames after so many actions. -/
structure Replays (frames : List Frame) (actions : List Passage.Action) (s : Account) : Prop where
  begins : s.sent <+: frames
  taken : s.passage.taken <+: s.sent
  submitted : s.submitted = []
  outcome : ∀ o, s.passage.path.run.outcome = some o →
    o.source = .cache ∧ o.answer = String.join (piecesOf s.sent) ∧ o.tokenUsage = 0 ∧
      o.writeBack = false
  completed : ∀ o, s.passage.path.run.outcome = some o →
    (o.termination = .completed ↔ s.sent = frames)
  left : ∀ o, s.passage.path.run.outcome = some o → (o.termination = .clientGone ↔ s.sent ≠ frames)
  /-- It ends before everything has been sent only if the client has left before. -/
  early : s.passage.path.run.outcome.isSome = true → s.sent ≠ frames → s.passage.ClientLeft
  /-- While the client is there, run and client alone bring it to the end of the frames. -/
  completes : ¬s.passage.ClientLeft →
    ∃ more s' o, (∀ a ∈ more, a = .run ∨ a = .take) ∧ s.run? more = some s' ∧
      s'.passage.path.run.outcome = some o ∧ s'.sent = frames
  /-- Once the client has left, the next step of the run is its last, and it sends nothing. -/
  stops : s.passage.ClientLeft → s.passage.path.run.outcome = none →
    ∃ s', s.step? .run = some s' ∧ s'.sent = s.sent ∧ s'.passage.path.run.outcome.isSome = true
  /-- Each step of the run sends a frame, but the last, with which it ends. -/
  steps : actions.count .run =
    s.sent.length + if s.passage.path.run.outcome.isSome then 1 else 0

theorem steps_step {earlier : List Passage.Action} (h : s.Replaying frames)
    (steps : earlier.count .run =
      s.sent.length + if s.passage.path.run.outcome.isSome then 1 else 0)
    (step : Passage.Step s.passage a after) :
    (earlier ++ [a]).count .run = (s.enter a after).sent.length +
      if (s.enter a after).passage.path.run.outcome.isSome then 1 else 0 := by
  cases step with
  | handed alive => simp [enter, steps, alive]
  | lost alive => simp [enter, Path.endRun, steps, alive]
  | completed alive => simp [enter, Path.endRun, steps, alive]
  | left alive empty more | took alive empty more | failed alive empty more
  | unterminated alive empty more =>
      rw [h.following] at more
      cases more
  | offered | stopped | read | taken | cancelled | closed | fed | hungUp => simp [enter, steps]

section Kept

variable {setup : Setup} {pump : Option Completion.Pump} {request : RelayRequest} {answer : String}
  {actions : List Passage.Action}

theorem replaying_opened : (opened (setup.pathFrom pump ⟨request, .kept answer⟩)).Replaying
    (Run.replayFrames answer setup.replaySize) := by
  refine ⟨rfl, rfl, Nat.le_max_right _ _, fun _ => rfl, ?_⟩
  intro o ended
  cases ended

theorem replaying_run
    (run : (opened (setup.pathFrom pump ⟨request, .kept answer⟩)).run? actions = some s) :
    s.Replaying (Run.replayFrames answer setup.replaySize) ∧ actions.count .run =
      s.sent.length + if s.passage.path.run.outcome.isSome then 1 else 0 := by
  refine Trace.induction (motive := fun actions s =>
    s.Replaying (Run.replayFrames answer setup.replaySize) ∧ actions.count .run =
      s.sent.length + if s.passage.path.run.outcome.isSome then 1 else 0)
    ⟨replaying_opened, rfl⟩ ?_ run
  rintro earlier s a s' ⟨h, steps⟩ hstep
  obtain ⟨after, moved, rfl⟩ := Option.map_eq_some_iff.mp hstep
  have step := Passage.step_of_step? moved
  exact ⟨replaying_step h step, steps_step h steps step⟩

theorem Replaying.begins (h : s.Replaying frames) : s.sent <+: frames := by
  cases outcome : s.passage.path.run.outcome with
  | none => exact ⟨_, h.alive outcome⟩
  | some o =>
      rcases (h.ended o outcome).2 with ⟨-, all⟩ | ⟨-, -, first, -⟩
      · exact all ▸ List.prefix_rfl
      · exact first

/-- The outcome tells whether all of it was sent. -/
theorem Replaying.told (h : s.Replaying frames) {o : Outcome}
    (ended : s.passage.path.run.outcome = some o) :
    (o.termination = .completed ↔ s.sent = frames) ∧
      (o.termination = .clientGone ↔ s.sent ≠ frames) := by
  rcases (h.ended o ended).2 with ⟨completed, all⟩ | ⟨gone, -, -, part⟩
  · simp [completed, all]
  · simp [gone, part]

/-- A kept answer is replayed in pieces of one length and with the marks of the end behind them. The
client is sent the beginning of that, and all of it unless it leaves before; the outcome tells which
of the two it was. -/
theorem kept_replayed
    (run : (opened (setup.pathFrom pump ⟨request, .kept answer⟩)).run? actions = some s) :
    ∃ texts, IsCut answer (max setup.replaySize 1) texts ∧
      s.Replays (texts.map .delta ++ [.finish, .done]) actions := by
  refine ⟨pieces answer setup.replaySize, isCut_pieces answer setup.replaySize, ?_⟩
  change s.Replays (Run.replayFrames answer setup.replaySize) actions
  obtain ⟨h, steps⟩ := replaying_run run
  have balanced := balanced_run run
  have submits := balanced.submits
  have nothing : s.submitted = [] := by
    cases outcome : s.passage.path.run.outcome with
    | none => exact submits.before outcome
    | some o =>
        rw [submits.ended o outcome, if_neg]
        exact fun provider => nomatch provider.1
  constructor
  case begins => exact h.begins
  case taken => exact taken_prefix_sent run
  case submitted => exact nothing
  case outcome =>
    intro o ended
    obtain ⟨-, answered, -⟩ := balanced.answers.outcome o ended
    refine ⟨submits.source o ended, answered.trans balanced.text, (h.ended o ended).1, ?_⟩
    exact Bool.eq_false_iff.mpr fun kept => (submits.writeBack o ended).mp kept nothing
  case completed => exact fun o ended => (h.told ended).1
  case left => exact fun o ended => (h.told ended).2
  case early =>
    intro ended part
    obtain ⟨o, outcome⟩ := Option.isSome_iff_exists.mp ended
    rcases (h.ended o outcome).2 with ⟨-, all⟩ | ⟨-, left, -⟩
    · exact absurd all part
    · exact left
  case completes => exact fun stays => h.exists_end (Passage.present_iff.mpr stays)
  case stops => exact fun left alive => h.stops alive left
  case steps => exact steps

end Kept

/-- A client that leaves between the two marks of the end has been sent the whole text, but the
replay does not count as completed. -/
theorem kept_replayed_unmarked :
    ∃ s o texts, (opened (Setup.pathFrom ⟨.always, 4, 1, 8⟩ none
        ⟨{ model := "model", prompt := "question" }, .kept "héllo"⟩)).run?
          [.run, .run, .run, .cancel, .run] = some s ∧
      s.sent = [.delta "héll", .delta "o", .finish] ∧
      s.passage.path.run.outcome = some o ∧ o.termination = .clientGone ∧ o.answer = "héllo" ∧
      IsCut "héllo" 4 texts ∧
      s.Replays (texts.map .delta ++ [.finish, .done]) [.run, .run, .run, .cancel, .run] := by
  have happens : ((opened (Setup.pathFrom ⟨.always, 4, 1, 8⟩ none
      ⟨{ model := "model", prompt := "question" }, .kept "héllo"⟩)).run?
        [.run, .run, .run, .cancel, .run]).map (fun s => (s.sent, s.passage.path.run.outcome)) =
      some ([.delta "héll", .delta "o", .finish],
        some ⟨.cache, .clientGone, "héllo", 0, false⟩) := by
    decide +kernel
  obtain ⟨s, run, facts⟩ := Option.map_eq_some_iff.mp happens
  obtain ⟨sent, ended⟩ := Prod.mk.inj facts
  obtain ⟨texts, cut, replays⟩ := kept_replayed run
  exact ⟨s, _, texts, run, sent, ended, rfl, rfl, cut, replays⟩

end Account

end AnswerGateway.Relay
