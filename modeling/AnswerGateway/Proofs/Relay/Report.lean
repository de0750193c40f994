import AnswerGateway.Proofs.Relay.Account

/-!
What the outcome of a run that forwards a provider's answer says, and what the client has been sent
by then. Whatever chunks come and whenever the client leaves, the frames that have gone out are the
contents of the chunks in their order, with the marks of the end behind them only if they are all
there; and the outcome tells which of the ways of ending it was.
-/

namespace AnswerGateway.Relay

def Frame.piece? : Frame → Option String
  | .delta content => some content
  | .finish | .done => none

/-- The pieces of text among frames. -/
def piecesOf (frames : List Frame) : List String := frames.filterMap Frame.piece?

/-- The contents that chunks have for a client. A chunk with an error has none. -/
def contentsOf (chunks : List Chunk) : List String :=
  (chunks.filter fun c => c.error.isNone && !c.content.isEmpty).map Chunk.content

/-- The frames that say after the text that it is whole. -/
def Following.marks : Following → List Frame
  | .more => []
  | .complete _ => [.finish, .done]

@[simp]
theorem piecesOf_append (first second : List Frame) :
    piecesOf (first ++ second) = piecesOf first ++ piecesOf second :=
  List.filterMap_append

@[simp]
theorem piecesOf_map_delta (texts : List String) : piecesOf (texts.map Frame.delta) = texts := by
  induction texts with
  | nil => rfl
  | cons text rest ih =>
      rw [List.map_cons]
      exact congrArg (text :: ·) ih

@[simp]
theorem piecesOf_marks (following : Following) : piecesOf following.marks = [] := by
  cases following <;> rfl

theorem marks_begin (following : Following) : following.marks <+: [.finish, .done] := by
  cases following with
  | more => exact List.nil_prefix
  | complete tokens => exact List.prefix_rfl

theorem frameText_eq_join (frames : List Frame) :
    frameText frames = String.join (piecesOf frames) := by
  induction frames with
  | nil => rfl
  | cons f rest ih =>
      rw [frameText_cons, ih]
      cases f with
      | delta content => simp [piecesOf, Frame.piece?, Frame.text]
      | finish | done => exact String.empty_append

@[simp]
theorem contentsOf_append (first second : List Chunk) :
    contentsOf (first ++ second) = contentsOf first ++ contentsOf second := by
  simp [contentsOf]

theorem contentsOf_error {c : Chunk} {message : String} (error : c.error = some message) :
    contentsOf [c] = [] := by
  simp [contentsOf, error]

theorem chunkFrames_fine {c : Chunk} (fine : c.error = none) :
    chunkFrames c = (contentsOf [c]).map Frame.delta ++
      (if c.done then Following.complete c.tokenUsage else .more).marks := by
  by_cases empty : c.content = "" <;> cases done : c.done <;>
    simp [chunkFrames, contentsOf, fine, empty, done, Following.marks]

theorem piecesOf_tail_chunkFrames (c : Chunk) : piecesOf (chunkFrames c).tail = [] := by
  unfold chunkFrames
  by_cases empty : c.content = "" <;> cases c.done <;> simp [empty, piecesOf, Frame.piece?]

/-- The first of some pieces of text and marks behind them are again pieces of text and then
marks. -/
theorem pieces_of_beginning {frames : List Frame} {texts : List String}
    (h : frames <+: texts.map Frame.delta ++ [.finish, .done]) :
    ∃ marks, frames = (piecesOf frames).map .delta ++ marks ∧ marks <+: [.finish, .done] := by
  induction texts generalizing frames with
  | nil =>
      have noText : piecesOf frames = [] := by
        have both : piecesOf [.finish, .done] = [] := rfl
        exact List.eq_nil_of_prefix_nil (both ▸ h.filterMap Frame.piece?)
      exact ⟨frames, by rw [noText]; rfl, h⟩
  | cons text rest ih =>
      rcases List.prefix_cons_iff.mp h with rfl | ⟨others, rfl, hothers⟩
      · exact ⟨[], rfl, List.nil_prefix⟩
      · obtain ⟨marks, split, marked⟩ := ih hothers
        exact ⟨marks, congrArg (Frame.delta text :: ·) split, marked⟩

/-- What precedes a piece of text is text. -/
theorem pieces_of_before {before after : List Frame} {texts : List String} {following : Following}
    {text : String}
    (h : before ++ .delta text :: after = texts.map Frame.delta ++ following.marks) :
    before = (piecesOf before).map .delta := by
  rcases List.append_eq_append_iff.mp h with ⟨more, htexts, -⟩ | ⟨more, -, hmarks⟩
  · obtain ⟨first, second, -, rfl, -⟩ := List.map_eq_append_iff.mp htexts
    rw [piecesOf_map_delta]
  · have noText := piecesOf_marks following
    rw [hmarks, piecesOf_append] at noText
    exact absurd (List.append_eq_nil_iff.mp noText).2 (List.cons_ne_nil text _)

/-- What is promised of a run that has forwarded an answer and ended so, having taken these chunks,
and possibly the end of their channel, and handed over these frames. -/
structure Reports (consumed : List Chunk) (drained : Bool) (sent : List Frame) (clientLeft : Prop)
    (o : Outcome) : Prop where
  source : o.source = .provider
  /-- Pieces of text, then possibly the mark of the end, then possibly the last mark. -/
  frames : ∃ marks, sent = (piecesOf sent).map .delta ++ marks ∧ marks <+: [.finish, .done]
  /-- One piece for each content, in order and unchanged. Only the last can be missing, if the
  client has left. -/
  pieces : piecesOf sent = contentsOf consumed ∨
    o.termination = .clientGone ∧ ∃ last, contentsOf consumed = piecesOf sent ++ [last]
  answer : o.answer = String.join (piecesOf sent)
  completed : o.termination = .completed ↔
    (∃ c ∈ consumed, c.done = true ∧ c.error = none) ∧ piecesOf sent = contentsOf consumed
  failed : ∀ message, o.termination = .providerError message ↔
    (∃ c ∈ consumed, c.error = some message) ∨ drained = true ∧ message = Run.unterminated
  left : o.termination = .clientGone → clientLeft
  unmarked : o.termination ≠ .completed → sent = (piecesOf sent).map .delta
  tokens : o.termination = .completed →
    ∃ c ∈ consumed, c.done = true ∧ c.error = none ∧ o.tokenUsage = c.tokenUsage
  noTokens : o.termination ≠ .completed → o.tokenUsage = 0
  /-- Nothing is taken after a chunk that ends the answer. -/
  last : ∀ c ∈ consumed.dropLast, c.isTerminal = false

theorem Reports.imp {consumed : List Chunk} {drained : Bool} {sent : List Frame}
    {clientLeft clientLeft' : Prop} {o : Outcome} (h : Reports consumed drained sent clientLeft o)
    (later : clientLeft → clientLeft') : Reports consumed drained sent clientLeft' o :=
  { h with left := fun gone => later (h.left gone) }

/-- What holds while a provider's answer is forwarded. -/
structure Forwarding (consumed : List Chunk) (sent : List Frame) (r : Run) : Prop where
  forwards : r.Forwards consumed
  source : r.source = .provider
  answer : r.answer = frameText sent
  frames : sent ++ r.pending = (contentsOf consumed).map .delta ++ r.following.marks
  first : piecesOf r.pending.tail = []
  tokens : ∀ tokens, r.following = .complete tokens →
    ∃ c ∈ consumed, c.done = true ∧ c.error = none ∧ tokens = c.tokenUsage

namespace Forwarding

variable {consumed : List Chunk} {sent : List Frame} {r : Run} {clientLeft : Prop}

theorem fine (h : Forwarding consumed sent r) (message : String) :
    ¬∃ c ∈ consumed, c.error = some message := by
  rintro ⟨c, member, error⟩
  rw [h.forwards.fine c member] at error
  cases error

theorem undone (h : Forwarding consumed sent r) (more : r.following = .more) :
    ¬∃ c ∈ consumed, c.done = true ∧ c.error = none := by
  rintro ⟨c, member, done, -⟩
  rw [h.forwards.more more c member] at done
  cases done

theorem answer_eq (h : Forwarding consumed sent r) : r.answer = String.join (piecesOf sent) := by
  rw [h.answer, frameText_eq_join]

/-- Before the last chunk there are no marks. -/
theorem delta_of_more (h : Forwarding consumed sent r) (more : r.following = .more) :
    ∀ f ∈ r.pending, ∃ text, f = .delta text := by
  intro f member
  have among := List.mem_append_right sent member
  rw [h.frames, more, Following.marks, List.append_nil] at among
  obtain ⟨text, -, rfl⟩ := List.mem_map.mp among
  exact ⟨text, rfl⟩

theorem inOrder (h : Forwarding consumed sent r) :
    ∃ marks, sent = (piecesOf sent).map .delta ++ marks ∧ marks <+: [.finish, .done] := by
  have begins : sent <+: (contentsOf consumed).map .delta ++ r.following.marks := ⟨_, h.frames⟩
  exact pieces_of_beginning (begins.trans ((List.prefix_append_right_inj _).mpr (marks_begin _)))

theorem last (h : Forwarding consumed sent r) :
    ∀ c ∈ consumed.dropLast, c.isTerminal = false := by
  intro c member
  have error := h.forwards.fine c (List.dropLast_subset _ member)
  have done : c.done = false := by
    cases following : r.following with
    | more => exact h.forwards.more following c (List.dropLast_subset _ member)
    | complete tokens =>
        obtain ⟨-, before, final, rfl, -, undone⟩ := h.forwards.complete tokens following
        rw [List.dropLast_concat] at member
        exact undone c member
  simp [Chunk.isTerminal, Chunk.isError, error, done]

/-- While more chunks are awaited, all contents have gone out and nothing else has. -/
theorem sent_of_more (h : Forwarding consumed sent r) (empty : r.pending = [])
    (more : r.following = .more) : sent = (contentsOf consumed).map .delta := by
  have frames := h.frames
  rw [empty, more] at frames
  simpa [Following.marks] using frames

theorem handed {f : Frame} {rest : List Frame} (h : Forwarding consumed sent r)
    (next : r.pending = f :: rest) :
    Forwarding consumed (sent ++ [f]) { r with pending := rest, answer := r.answer ++ f.text } := by
  have frames := h.frames
  have first := h.first
  rw [next] at frames
  rw [next, List.tail_cons] at first
  have later : piecesOf rest.tail = [] := by
    cases rest with
    | nil => rfl
    | cons g others =>
        rw [← List.singleton_append, piecesOf_append] at first
        exact (List.append_eq_nil_iff.mp first).2
  refine ⟨h.forwards.handed next, h.source, ?_, ?_, later, h.tokens⟩
  · simp [h.answer, frameText_append]
  · simpa using frames

theorem took {c : Chunk} (h : Forwarding consumed sent r) (empty : r.pending = [])
    (more : r.following = .more) (fine : c.error = none) :
    Forwarding (consumed ++ [c]) sent (r.takeChunk c) := by
  have forwards := h.forwards.took empty more fine
  have same := h.sent_of_more empty more
  rw [Run.takeChunk_of_fine _ fine] at forwards ⊢
  refine ⟨forwards, h.source, h.answer, ?_, piecesOf_tail_chunkFrames c, ?_⟩
  · rw [same, chunkFrames_fine fine, contentsOf_append, List.map_append, List.append_assoc]
  · intro tokens following
    cases done : c.done with
    | false => simp [done] at following
    | true =>
        simp only [done, if_true, Following.complete.injEq] at following
        exact ⟨c, List.mem_append_right _ List.mem_cons_self, done, fine, following.symm⟩

/-- The end once the last piece of a whole answer has gone out. -/
theorem reports_whole {tokens : UInt32} (h : Forwarding consumed sent r)
    (whole : r.following = .complete tokens) (noText : piecesOf r.pending = []) {o : Outcome}
    (ended : (r.finish .completed tokens).outcome = some o) :
    Reports consumed false sent clientLeft o := by
  have pieces : piecesOf sent = contentsOf consumed := by
    have same := congrArg piecesOf h.frames
    simpa [noText] using same
  obtain ⟨c, member, done, fine, htokens⟩ := h.tokens tokens whole
  cases ended
  constructor
  case source => exact h.source
  case frames => exact h.inOrder
  case pieces => exact .inl pieces
  case answer => exact h.answer_eq
  case completed => exact ⟨fun _ => ⟨⟨c, member, done, fine⟩, pieces⟩, fun _ => rfl⟩
  case failed =>
    intro message
    constructor
    · exact fun failed => nomatch failed
    · rintro (error | ⟨drained, -⟩)
      · exact absurd error (h.fine message)
      · cases drained
  case left => exact fun left => nomatch left
  case unmarked => exact fun broken => absurd rfl broken
  case tokens => exact fun _ => ⟨c, member, done, fine, htokens⟩
  case noTokens => exact fun broken => absurd rfl broken
  case last => exact h.last

/-- The end when the client leaves before the last piece has gone out. -/
theorem reports_left (h : Forwarding consumed sent r) (left : clientLeft)
    (unmarked : sent = (piecesOf sent).map .delta)
    (pieces : (r.following = .more ∧ piecesOf sent = contentsOf consumed) ∨
      ∃ last, contentsOf consumed = piecesOf sent ++ [last]) {o : Outcome}
    (ended : (r.finish .clientGone 0).outcome = some o) :
    Reports consumed false sent clientLeft o := by
  cases ended
  constructor
  case source => exact h.source
  case frames => exact h.inOrder
  case pieces => exact pieces.imp And.right fun missing => ⟨rfl, missing⟩
  case answer => exact h.answer_eq
  case completed =>
    constructor
    · exact fun completed => nomatch completed
    · rintro ⟨done, same⟩
      rcases pieces with ⟨more, -⟩ | ⟨last, missing⟩
      · exact absurd done (h.undone more)
      · rw [same] at missing
        exact absurd missing (by simp)
  case failed =>
    intro message
    constructor
    · exact fun failed => nomatch failed
    · rintro (error | ⟨drained, -⟩)
      · exact absurd error (h.fine message)
      · cases drained
  case left => exact fun _ => left
  case unmarked => exact fun _ => unmarked
  case tokens => exact fun completed => nomatch completed
  case noTokens => exact fun _ => rfl
  case last => exact h.last

/-- The end when the provider fails, whatever is taken last because of that. -/
theorem reports_failed {final : List Chunk} {drained : Bool} {message : String}
    (h : Forwarding consumed sent r) (empty : r.pending = []) (more : r.following = .more)
    (noContent : contentsOf final = [])
    (notDone : ¬∃ c ∈ final, c.done = true ∧ c.error = none) (short : final.length ≤ 1)
    (why : ∀ other, message = other ↔
      (∃ c ∈ final, c.error = some other) ∨ drained = true ∧ other = Run.unterminated)
    {o : Outcome} (ended : (r.finish (.providerError message) 0).outcome = some o) :
    Reports (consumed ++ final) drained sent clientLeft o := by
  have same := h.sent_of_more empty more
  have pieces : piecesOf sent = contentsOf (consumed ++ final) := by
    rw [contentsOf_append, noContent, List.append_nil, same, piecesOf_map_delta]
  cases ended
  constructor
  case source => exact h.source
  case frames => exact h.inOrder
  case pieces => exact .inl pieces
  case answer => exact h.answer_eq
  case completed =>
    constructor
    · exact fun completed => nomatch completed
    · rintro ⟨⟨c, member, done, fine⟩, -⟩
      rcases List.mem_append.mp member with before | last
      · exact absurd ⟨c, before, done, fine⟩ (h.undone more)
      · exact absurd ⟨c, last, done, fine⟩ notDone
  case failed =>
    intro other
    rw [Termination.providerError.injEq, why other]
    have onlyLast : (∃ c ∈ consumed ++ final, c.error = some other) ↔
        ∃ c ∈ final, c.error = some other := by
      simp only [List.mem_append, or_and_right, exists_or, h.fine other, false_or]
    rw [onlyLast]
  case left => exact fun left => nomatch left
  case unmarked =>
    intro _
    rw [same, piecesOf_map_delta]
  case tokens => exact fun completed => nomatch completed
  case noTokens => exact fun _ => rfl
  case last =>
    intro c member
    have before : c ∈ consumed := by
      match final, short with
      | [], _ => exact List.dropLast_subset _ (List.append_nil consumed ▸ member)
      | [last], _ => rwa [List.dropLast_concat] at member
    simp [Chunk.isTerminal, Chunk.isError, h.forwards.fine c before, h.forwards.more more c before]

/-- The end when a frame cannot be handed over. -/
theorem reports_lost {f : Frame} {rest : List Frame} (h : Forwarding consumed sent r)
    (next : r.pending = f :: rest) (left : clientLeft) {o : Outcome}
    (ended : (r.endWithout f).outcome = some o) : Reports consumed false sent clientLeft o := by
  have frames := h.frames
  have first := h.first
  rw [next] at frames
  rw [next, List.tail_cons] at first
  have pieces := congrArg piecesOf frames
  rw [piecesOf_append, piecesOf_append, piecesOf_map_delta, piecesOf_marks, List.append_nil,
    ← List.singleton_append, piecesOf_append, first, List.append_nil] at pieces
  cases f with
  | delta text =>
      have clientGone : r.endWithout (.delta text) = r.finish .clientGone 0 := by
        simp [Run.endWithout]
      rw [clientGone] at ended
      exact h.reports_left left (pieces_of_before frames) (.inr ⟨text, pieces.symm⟩) ended
  | finish | done =>
      cases following : r.following with
      | more =>
          obtain ⟨text, noMark⟩ := h.delta_of_more following _ (next ▸ List.mem_cons_self)
          cases noMark
      | complete tokens =>
          simp only [Run.endWithout, h.source, following] at ended
          exact h.reports_whole following (by rw [next]; exact first) ended

end Forwarding

namespace Passage

variable {p p' : Passage} {a : Action}

/-- Whether the client has left, in one way or the other. -/
def ClientLeft (p : Passage) : Prop :=
  p.path.cancelled = true ∨ p.path.frames.receiverGone = true

/-- A client that has left does not come back. -/
theorem clientLeft_step (left : p.ClientLeft) (step : Step p a p') : p'.ClientLeft := by
  cases step with
  | cancelled => exact .inl rfl
  | closed => exact .inr rfl
  | offered | stopped | read | handed | lost | completed | left | took | failed | unterminated
  | taken | fed | hungUp => exact left

end Passage

namespace Account

variable {s : Account} {a : Passage.Action} {after : Passage}

/-- What holds of the account of every run that forwards an answer. -/
structure Reported (s : Account) : Prop where
  alive : s.passage.path.run.outcome = none →
    Forwarding s.passage.consumed s.sent s.passage.path.run ∧ s.drained = false
  ended : ∀ o, s.passage.path.run.outcome = some o →
    Reports s.passage.consumed s.drained s.sent s.passage.ClientLeft o

theorem Reported.of_alive (alive : s.passage.path.run.outcome = none)
    (forwarding : Forwarding s.passage.consumed s.sent s.passage.path.run)
    (undrained : s.drained = false) : s.Reported := by
  constructor
  · exact fun _ => ⟨forwarding, undrained⟩
  · intro o ended
    rw [alive] at ended
    cases ended

/-- The step by which a run ends. It hands nothing over. -/
theorem Reported.ending (path : Path) {r : Run} {consumed : List Chunk} {drained : Bool}
    (undrained : s.drained = false) (meetsEnd : s.passage.path.meetsEnd = drained)
    (items : path.frames.items = s.passage.path.frames.items) (ended : r.outcome.isSome = true)
    (reports : ∀ o, r.outcome = some o →
      Reports consumed drained s.sent
        (path.cancelled = true ∨ path.frames.receiverGone = true) o) :
    (s.enter .run { s.passage with path := path.endRun r, consumed }).Reported := by
  have hsent : (s.enter .run { s.passage with path := path.endRun r, consumed }).sent = s.sent := by
    simp [enter, Path.endRun, items]
  have hdrained : (s.enter .run { s.passage with path := path.endRun r, consumed }).drained =
      drained := by
    simp [enter, undrained, meetsEnd]
  constructor
  · intro alive
    have alive : r.outcome = none := alive
    rw [alive] at ended
    cases ended
  · intro o outcome
    rw [hsent, hdrained]
    exact reports o outcome

/-- A step that is not one of the run changes nothing that is reported. -/
theorem Reported.aside (h : s.Reported) (notRun : a ≠ .run)
    (same : after.path.run = s.passage.path.run) (consumed : after.consumed = s.passage.consumed)
    (left : s.passage.ClientLeft → after.ClientLeft) : (s.enter a after).Reported := by
  have sent : (s.enter a after).sent = s.sent := by simp [enter, notRun]
  have drained : (s.enter a after).drained = s.drained := by simp [enter, notRun]
  constructor
  · intro alive
    rw [sent, drained]
    simpa [enter, same, consumed] using h.alive (same ▸ alive)
  · intro o ended
    rw [sent, drained]
    simpa [enter, consumed] using (h.ended o (same ▸ ended)).imp left

theorem reported_step (h : s.Reported) (step : Passage.Step s.passage a after) :
    (s.enter a after).Reported := by
  have later := fun left => Passage.clientLeft_step left step
  cases step with
  | offered | stopped | read | taken | cancelled | closed | fed | hungUp =>
      exact h.aside (fun isRun => nomatch isRun) rfl rfl later
  | @handed f rest alive next stays present room =>
      obtain ⟨forwarding, undrained⟩ := h.alive alive
      refine .of_alive alive ?_ ?_
      · simpa [enter] using forwarding.handed next
      · simp [enter, undrained, Path.meetsEnd, next]
  | @lost f rest alive next gone =>
      obtain ⟨forwarding, undrained⟩ := h.alive alive
      have goesOn : s.passage.path.meetsEnd = false := by simp [Path.meetsEnd, next]
      have ends := s.passage.path.run.endWithout_outcome_isSome f
      apply Reported.ending s.passage.path undrained goesOn rfl ends
      exact fun o ended => forwarding.reports_lost next gone ended
  | @completed tokens alive empty last =>
      obtain ⟨forwarding, undrained⟩ := h.alive alive
      have goesOn : s.passage.path.meetsEnd = false := by simp [Path.meetsEnd, last]
      have noText : piecesOf s.passage.path.run.pending = [] := by rw [empty]; rfl
      apply Reported.ending s.passage.path undrained goesOn rfl rfl
      exact fun o ended => forwarding.reports_whole last noText ended
  | left alive empty more gone =>
      obtain ⟨forwarding, undrained⟩ := h.alive alive
      have goesOn : s.passage.path.meetsEnd = false := by simp [Path.meetsEnd, gone]
      have pieces : piecesOf s.sent = contentsOf s.passage.consumed := by
        rw [forwarding.sent_of_more empty more, piecesOf_map_delta]
      have unmarked : s.sent = (piecesOf s.sent).map .delta := by
        rw [pieces]
        exact forwarding.sent_of_more empty more
      apply Reported.ending s.passage.path undrained goesOn rfl rfl
      intro o ended
      exact forwarding.reports_left (.inl gone) unmarked (.inl ⟨more, pieces⟩) ended
  | @took c rest alive empty more stays next fine =>
      obtain ⟨forwarding, undrained⟩ := h.alive alive
      have still : (s.passage.path.run.takeChunk c).outcome = none := by
        rw [Run.takeChunk_of_fine _ fine]
        exact alive
      refine .of_alive still ?_ ?_
      · simpa [enter] using forwarding.took empty more fine
      · simp [enter, undrained, Path.meetsEnd, next]
  | @failed c rest message alive empty more stays next error =>
      obtain ⟨forwarding, undrained⟩ := h.alive alive
      have goesOn : s.passage.path.meetsEnd = false := by simp [Path.meetsEnd, next]
      apply Reported.ending
        { s.passage.path with chunks := { s.passage.path.chunks with items := rest } }
        undrained goesOn rfl rfl
      intro o ended
      refine forwarding.reports_failed empty more (contentsOf_error error) ?_ ?_ ?_ ended
      · simp [error]
      · simp
      · simp [error]
  | unterminated alive empty more stays next closes =>
      obtain ⟨forwarding, undrained⟩ := h.alive alive
      have meetsEnd : s.passage.path.meetsEnd = true := by
        simp [Path.meetsEnd, alive, empty, more, stays, next, closes]
      apply Reported.ending s.passage.path undrained meetsEnd rfl rfl
      intro o ended
      rw [← List.append_nil s.passage.consumed]
      refine forwarding.reports_failed empty more rfl ?_ ?_ ?_ ended
      · simp
      · simp
      · simp [eq_comm]

/-- Whatever chunks a run is given and whenever its client leaves, its outcome says truly how it
ended, and the client has been sent what such an end allows. -/
theorem stream_reported {setup : Setup} {pump : Option Completion.Pump} {request : RelayRequest}
    {actions : List Passage.Action} {s : Account} {o : Outcome}
    (run : (opened (setup.pathFrom pump ⟨request, .stream ()⟩)).run? actions = some s)
    (ended : s.passage.path.run.outcome = some o) :
    Reports s.passage.consumed s.drained s.sent s.passage.ClientLeft o := by
  have reported : s.Reported := by
    refine run_induction ?_ (fun _ _ _ holds step => reported_step holds step) run
    have forwards := (setup.path_answers ⟨request, .stream ()⟩).forwards rfl rfl
    refine .of_alive rfl ⟨forwards, rfl, rfl, rfl, rfl, ?_⟩ rfl
    exact fun tokens following => nomatch following
  exact reported.ended o ended

/-- The client leaves when it has been sent the whole text but not told so. -/
theorem stream_reported_unmarked :
    ∃ s o, (opened (Setup.pathFrom ⟨.never, 20, 1, 1⟩ none
        ⟨{ model := "model", prompt := "question" }, .stream ()⟩)).run?
          [.feed (.ofContent "Hel"), .run, .run, .take,
            .feed { content := "lo", done := true, tokenUsage := 5 }, .run, .run, .cancel, .run] =
        some s ∧
      s.passage.path.run.outcome = some o ∧ o.termination = .completed ∧
      Reports s.passage.consumed s.drained s.sent s.passage.ClientLeft o := by
  have happens : ((opened (Setup.pathFrom ⟨.never, 20, 1, 1⟩ none
      ⟨{ model := "model", prompt := "question" }, .stream ()⟩)).run?
        [.feed (.ofContent "Hel"), .run, .run, .take,
          .feed { content := "lo", done := true, tokenUsage := 5 }, .run, .run, .cancel, .run]).map
        (·.passage.path.run.outcome) =
      some (some ⟨.provider, .completed, "Hello", 5, true⟩) := by
    decide +kernel
  obtain ⟨s, run, ended⟩ := Option.map_eq_some_iff.mp happens
  exact ⟨s, _, run, ended, rfl, stream_reported run ended⟩

end Account

end AnswerGateway.Relay
