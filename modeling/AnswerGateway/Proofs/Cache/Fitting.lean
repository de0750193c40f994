import AnswerGateway.Embedding.Provider
import AnswerGateway.Proofs.Cache.Lasting
import AnswerGateway.Proofs.Store.Fits

/-!
Why no record of an engine is refused by the store. The embedder makes of any response a vector of
its own length or a failure, the engine starts only if that is the length of the settings, and the
collection it creates is for vectors of that length. So of the three ways in which a write can end,
the one that blames the store is never taken, whatever the model's server answers and whatever
others do to the store meanwhile. What a worker has stored is in the collection, until a later point
takes its id over.
-/

namespace AnswerGateway

/-- Whatever comes back is made a vector of the right length or a failure to embed. -/
theorem Embedding.Provider.receive_cases (p : Provider) (response : Except Fault Json) :
    (∃ v, p.receive response = .ok v ∧ v.length = p.dimensions) ∨
      ∃ message, p.receive response = .error (.embedding message) := by
  cases response with
  | error f => exact .inr ⟨_, rfl⟩
  | ok response =>
      rw [receive, vectorOf]
      split
      · exact .inr ⟨_, rfl⟩
      · exact .inr ⟨_, rfl⟩
      · rename_i v _ _
        by_cases fits : v.length = p.dimensions
        · exact .inl ⟨v, if_pos fits, fits⟩
        · exact .inr ⟨_, if_neg fits⟩

theorem Embedding.Provider.length_of_receive {p : Provider} {response : Except Fault Json}
    {v : Vector} (received : p.receive response = .ok v) : v.length = p.dimensions := by
  rcases p.receive_cases response with ⟨w, ok, length⟩ | ⟨message, failed⟩
  · cases ok.symm.trans received
    exact length
  · cases failed.symm.trans received

namespace Cache

open Store

/-- What can happen to a site whose store others use too. -/
inductive Turn where
  | own (action : Action)
  | other (call : Store.Call)

def Turn.own? : Turn → Option Action
  | .own action => some action
  | .other _ => none

/-- The point that somebody else puts into a collection for vectors of so many dimensions. -/
def Turn.puts? (collection : String) (dimensions : Nat) : Turn → Option Point
  | .own _ => none
  | .other call => call.puts? collection dimensions

/-- A point that was put into a collection, by a worker or by somebody else. -/
inductive Put where
  | own (p : Point)
  | other (p : Point)

namespace Put

def point : Put → Point
  | .own p | .other p => p

def own? : Put → Option Point
  | .own p => some p
  | .other _ => none

def other? : Put → Option Point
  | .own _ => none
  | .other p => some p

end Put

/-- What the embedder says in an action is what the provider makes of some response or failure. -/
def Action.Asks (provider : Embedding.Provider) : Action → Prop
  | .embed _ answer | .lookup _ answer => ∃ response, answer = provider.receive response
  | _ => True

namespace Ledger

/-- Every embedding was answered with what the provider makes of some response or failure. -/
def Asked (provider : Embedding.Provider) (l : Ledger) : Prop :=
  ∀ n text answer, (n, .embed text answer) ∈ l.calls →
    ∃ response, answer = provider.receive response

/-- No write has failed at the store. -/
def Unrefused (l : Ledger) : Prop := ∀ n, (n, .upsertError) ∉ l.ended

variable {provider : Embedding.Provider} {l : Ledger} {index : Nat} {c : Call} {w : Metrics.Write}

theorem Asked.call (h : l.Asked provider)
    (own : ∀ text answer, c = .embed text answer → ∃ response, answer = provider.receive response) :
    (l.call index c).Asked provider := by
  intro n text answer made
  unfold Ledger.call at made
  split at made
  · rcases List.mem_append.mp made with before | new
    · exact h n text answer before
    · exact own text answer (Prod.mk.inj (List.mem_singleton.mp new)).2.symm
  · exact h n text answer made

theorem Asked.finish (h : l.Asked provider) : (l.finish index w).Asked provider := by
  unfold Ledger.finish
  split <;> exact h

theorem Unrefused.call (h : l.Unrefused) : (l.call index c).Unrefused := by
  rw [Unrefused, ended_call]
  exact h

theorem Unrefused.finish (h : l.Unrefused) (taken : w ≠ .upsertError) :
    (l.finish index w).Unrefused := by
  intro n ended
  unfold Ledger.finish at ended
  split at ended
  · rcases List.mem_append.mp ended with before | new
    · exact h n before
    · exact taken (Prod.mk.inj (List.mem_singleton.mp new)).2.symm
  · exact h n ended

end Ledger

namespace Site

def turn? (s : Site Memory) : Turn → Option (Site Memory)
  | .own action => s.step? .memory action
  | .other call => some { s with store := (s.store.answer call).2 }

/-- The collection fits the provider, only the provider was asked, and no write failed at the
store. -/
structure Fitting (provider : Embedding.Provider) (settings : Settings) (s : Site Memory) :
    Prop where
  store : s.store.Fits settings.collection provider.dimensions
  asked : s.ledger.Asked provider
  unrefused : s.ledger.Unrefused

/-- A collection holds what was put into it, one point after the other: what the workers have stored
and what others have put there. -/
structure Shelved (collection : String) (dimensions : Nat) (turns : List Turn) (puts : List Put)
    (s : Site Memory) : Prop where
  points : s.store.points collection =
    (puts.map Put.point).foldl (fun points p => putPoint p points) []
  own : puts.filterMap Put.own? = s.ledger.stored
  others : puts.filterMap Put.other? = turns.filterMap (Turn.puts? collection dimensions)

variable {provider : Embedding.Provider} {settings : Settings} {actions : List Action}
  {s s' : Site Memory} {a : Action}

section Shelved

variable {collection : String} {dimensions : Nat} {turns : List Turn} {puts : List Put}

theorem shelved_own (h : s.Shelved collection dimensions turns puts)
    (here : s.engine.collection = collection) (numbered : s.ledger.Numbered s.engine)
    (step : Step .memory s a s') :
    ∃ more, s'.Shelved collection dimensions (turns ++ [.own a]) (puts ++ more) := by
  obtain ⟨added, stored, -, points, -⟩ := stored_step numbered step
  rw [here] at points
  refine ⟨added.map .own, ?_, ?_, ?_⟩
  · rw [points, h.points, List.map_append, List.foldl_append, List.map_map]
    congr 1
    exact (List.map_id _).symm
  · rw [stored, List.filterMap_append, h.own, List.filterMap_map]
    congr 1
    exact List.filterMap_some
  · rw [List.filterMap_append, List.filterMap_append, h.others, List.filterMap_map]
    congr 1
    exact List.filterMap_eq_nil_iff.mpr fun _ _ => rfl

theorem shelved_other (h : s.Shelved collection dimensions turns puts)
    (fits : s.store.Fits collection dimensions) (call : Store.Call) :
    ∃ more, Shelved collection dimensions (turns ++ [.other call]) (puts ++ more)
      { s with store := (s.store.answer call).2 } := by
  refine ⟨(call.puts? collection dimensions).toList.map .other, ?_, ?_, ?_⟩
  · rw [fits.points_answer, h.points, List.map_append, List.foldl_append, List.map_map]
    congr 1
    exact (List.map_id _).symm
  · rw [List.filterMap_append, h.own, List.filterMap_map]
    have nothing :
        (call.puts? collection dimensions).toList.filterMap (Put.own? ∘ Put.other) = [] :=
      List.filterMap_eq_nil_iff.mpr fun _ _ => rfl
    rw [nothing, List.append_nil]
  · rw [List.filterMap_append, List.filterMap_append, h.others, List.filterMap_map]
    congr 1
    cases brought : call.puts? collection dimensions <;> simp [Turn.puts?, Put.other?, brought]

/-- What a worker has stored is in the collection, or what was put there later under its id. -/
theorem Shelved.exists_point {p : Point} (h : s.Shelved collection dimensions turns puts)
    (stored : p ∈ s.ledger.stored) :
    .own p ∈ puts ∧ ∃ q ∈ s.store.points collection, q.id = p.id ∧
      (q = p ∨ [p, q].Sublist (puts.map Put.point)) := by
  rw [← h.own] at stored
  obtain ⟨put, member, own⟩ := List.mem_filterMap.mp stored
  cases put with
  | own p' =>
      obtain rfl : p' = p := Option.some.inj own
      rw [h.points]
      exact ⟨member, exists_mem_of_put (List.mem_map.mpr ⟨_, member, rfl⟩)⟩
  | other => cases own

end Shelved

/-- A vector that a worker brings to the store came from the provider. -/
theorem Fitting.length_storing {index : Nat} {r : Record} {v : Vector} {d : Bool}
    (h : s.Fitting provider settings) (kept : s.Kept settings actions)
    (stands : s.engine.workers[index]? = some (.storing r v d)) :
    v.length = provider.dimensions := by
  obtain ⟨n, hand, -⟩ := kept.numbered.inHand stands rfl
  have made : Call.embed r.prompt (.ok v) ∈ s.ledger.callsOf n := by
    rw [kept.called.underway index _ n stands hand]
    exact List.mem_singleton_self _
  obtain ⟨response, received⟩ := h.asked n r.prompt (.ok v) (Ledger.mem_calls made)
  exact Embedding.Provider.length_of_receive received.symm

theorem fitting_step (h : s.Fitting provider settings) (kept : s.Kept settings actions)
    (asks : a.Asks provider) (step : Step .memory s a s') : s'.Fitting provider settings := by
  cases step with
  | @embedded index r d v stands =>
      refine ⟨h.store, h.asked.call ?_, h.unrefused.call⟩
      rintro text answer ⟨⟩
      exact asks
  | @notEmbedded index r d f stands =>
      refine ⟨h.store, (h.asked.call ?_).finish, h.unrefused.call.finish ?_⟩
      · rintro text answer ⟨⟩
        exact asks
      · decide
  | @wrote index r v d id time stands =>
      -- The store takes the point, so the write ends as one that went well.
      have taken : s.upserted .memory r v id time =
          (.ok (), s.store.update settings.collection (·.put (Engine.pointOf id time r v))) := by
        rw [upserted, kept.collection]
        exact h.store.upsert (h.length_storing kept stands)
      refine ⟨?_, (h.asked.call ?_).finish, h.unrefused.call.finish ?_⟩
      · exact h.store.answer (.upsert s.engine.collection (Engine.pointOf id time r v))
      · intro text answer other
        cases other
      · rw [taken]
        intro refused
        cases refused
  | lookedUp =>
      refine ⟨?_, ?_, ?_⟩
      · rw [store_lookup]
        exact h.store
      · rw [ledger_lookup]
        exact h.asked
      · rw [ledger_lookup]
        exact h.unrefused
  | accepted | dropped | turned | took | shutdown | shutdownReturned =>
      exact ⟨h.store, h.asked, h.unrefused⟩

/-- What every run of a started engine keeps, if its provider is the one that it was started with.
-/
theorem fitting_run {turns : List Turn} {store : Memory}
    (fits : store.Fits settings.collection provider.dimensions)
    (empty : store.points settings.collection = [])
    (asks : ∀ a, .own a ∈ turns → a.Asks provider)
    (run : Trace.run? turn? (opened (Engine.idle settings) store) turns = some s) :
    s.Kept settings (turns.filterMap Turn.own?) ∧ s.Fitting provider settings ∧
      ∃ puts, s.Shelved settings.collection provider.dimensions turns puts := by
  refine Trace.induction (motive := fun turns s => (∀ a, .own a ∈ turns → a.Asks provider) →
    s.Kept settings (turns.filterMap Turn.own?) ∧ s.Fitting provider settings ∧
      ∃ puts, s.Shelved settings.collection provider.dimensions turns puts) ?_ ?_ run asks
  · intro _
    refine ⟨kept_opened settings store, ⟨fits, ?_, ?_⟩, [], empty, rfl, rfl⟩
    · intro n text answer made
      cases made
    · intro n ended
      cases ended
  · intro turns s turn s' ih moved asks
    have asked (a : Action) (member : .own a ∈ turns) := asks a (List.mem_append_left _ member)
    obtain ⟨kept, fitting, puts, shelved⟩ := ih asked
    cases turn with
    | own a =>
        have step := step_of_step? moved
        have own := asks a (List.mem_append_right _ List.mem_cons_self)
        obtain ⟨more, shelved'⟩ := shelved_own shelved kept.collection kept.numbered step
        refine ⟨?_, fitting_step fitting kept own step, puts ++ more, shelved'⟩
        rw [List.filterMap_append]
        exact kept_step kept step
    | other call =>
        cases moved
        obtain ⟨more, shelved'⟩ := shelved_other shelved fitting.store call
        refine ⟨?_, ⟨fitting.store.answer call, fitting.asked, fitting.unrefused⟩, puts ++ more,
          shelved'⟩
        rw [List.filterMap_append, List.filterMap_cons_none rfl, List.filterMap_nil,
          List.append_nil]
        exact kept.withStore rfl rfl rfl

/-- The account of a site whose store refused nothing, with the points that were put into its
collection. -/
structure Fitted (settings : Settings) (turns : List Turn) (puts : List Put) (s : Site Memory) :
    Prop where
  /-- A record that was accepted waits, is in the hands of a worker or is done with. -/
  placed : ∀ n, n < s.ledger.accepted.length →
    s.ledger.taken.length ≤ n ∨ n ∈ s.ledger.hands.filterMap id ∨
      ∃ write, (n, write) ∈ s.ledger.ended
  /-- One that is done with was stored with a vector of the right length, or not embedded. -/
  ended : ∀ n write, (n, write) ∈ s.ledger.ended → ∃ r, s.ledger.accepted[n]? = some r ∧
    ((write = .stored ∧ ∃ v p, v.length = settings.dimensions.toNat ∧ Carries p r v ∧
        s.ledger.callsOf n =
          [.embed r.prompt (.ok v), .upsert settings.collection p (.ok ())] ∧
        Put.own p ∈ puts ∧
        -- Its point is in the collection, or what was put there later under its id.
        ∃ q ∈ s.store.points settings.collection, q.id = p.id ∧
          (q = p ∨ [p, q].Sublist (puts.map Put.point))) ∨
      write = .embedError ∧ ∃ message,
        s.ledger.callsOf n = [.embed r.prompt (.error (.embedding message))])
  /-- The collection holds what was put into it, by the workers and by others, and nothing else. -/
  shelved : s.Shelved settings.collection settings.dimensions.toNat turns puts
  counted : ∀ write, s.metrics.count (Metrics.writeSeries write) = s.ledger.count write
  noneRefused : s.metrics.count (Metrics.writeSeries .upsertError) = 0
  counters : s.metrics.count (Metrics.enqueueSeries true) =
    s.engine.queue.length + s.engine.inFlight.length +
      s.metrics.count (Metrics.writeSeries .stored) +
      s.metrics.count (Metrics.writeSeries .embedError)
  collection : s.store.Fits settings.collection settings.dimensions.toNat

theorem Fitting.fitted {turns : List Turn} {puts : List Put} (h : s.Fitting provider settings)
    (kept : s.Kept settings actions)
    (shelved : s.Shelved settings.collection provider.dimensions turns puts)
    (same : provider.dimensions = settings.dimensions.toNat) : s.Fitted settings turns puts := by
  have account : s.Accounted .memory _ _ _ := kept.accounted
  have none : s.ledger.count .upsertError = 0 := by
    rw [Ledger.count, List.countP_eq_zero]
    rintro ⟨n, write⟩ member refused
    obtain rfl : write = .upsertError := of_decide_eq_true refused
    exact h.unrefused n member
  have noneRefused := (kept.counted.written .upsertError).trans none
  refine ⟨?_, ?_, same ▸ shelved, kept.counted.written, noneRefused, ?_, same ▸ h.store⟩
  · intro n known
    have place := account.numbers.mem_iff.mp (List.mem_range.mpr known)
    rcases List.mem_append.mp place with waits | place
    · exact .inl (List.mem_range'_1.mp waits).1
    · rcases List.mem_append.mp place with hand | done
      · exact .inr (.inl hand)
      · obtain ⟨⟨m, write⟩, ended, rfl⟩ := List.mem_map.mp done
        exact .inr (.inr ⟨write, ended⟩)
  · intro n write ended
    obtain ⟨r, accepted, written⟩ := account.written n write ended
    rw [kept.collection] at written
    refine ⟨r, accepted, ?_⟩
    have asked (text answer) (made : .embed text answer ∈ s.ledger.callsOf n) :=
      h.asked n text answer (Ledger.mem_calls made)
    have taken (p) (made : .upsert settings.collection p (.ok ()) ∈ s.ledger.callsOf n) :=
      shelved.exists_point (Ledger.mem_stored made)
    generalize s.ledger.callsOf n = made at written asked taken ⊢
    cases written with
    | @stored v p carries =>
        obtain ⟨response, received⟩ := asked _ _ List.mem_cons_self
        have length := Embedding.Provider.length_of_receive received.symm
        obtain ⟨put, there⟩ := taken p (List.mem_cons_of_mem _ List.mem_cons_self)
        exact .inl ⟨rfl, v, p, length.trans same, carries, rfl, put, there⟩
    | embedError f =>
        obtain ⟨response, received⟩ := asked _ _ List.mem_cons_self
        rcases provider.receive_cases response with ⟨v, ok, -⟩ | ⟨message, failed⟩
        · cases received.trans ok
        · cases received.trans failed
          exact .inr ⟨rfl, message, rfl⟩
    | upsertError carries f => exact absurd ended (h.unrefused n)
  · have counters := account.counters
    rw [noneRefused] at counters
    exact counters

/-- An embedder answers with a vector of its length or with a failure to embed. With valid settings
and a store without their collection, an engine starts exactly if that is the length of the
settings. After that no write fails at the store, in no run and whatever others ask of the store:
each record that is done with was stored, with a vector of that length, or could not be embedded.
What was stored is in the collection, unless something was put there later under its id. -/
theorem run_fitted {before : Memory} (valid : settings.validate = .ok ())
    (absent : before.holds settings.collection = false) :
    (∀ response, (∃ v, provider.receive response = .ok v ∧ v.length = provider.dimensions) ∨
      ∃ message, provider.receive response = .error (.embedding message)) ∧
    ((∃ engine created store,
        (Engine.start Memory.calls settings provider.dimensions).run before =
          (.ok (engine, created), store)) ↔
      provider.dimensions = settings.dimensions.toNat) ∧
    ∀ engine created store,
      (Engine.start Memory.calls settings provider.dimensions).run before =
        (.ok (engine, created), store) →
      ∀ turns s, (∀ a, .own a ∈ turns → a.Asks provider) →
        Trace.run? turn? (opened engine store) turns = some s →
          ∃ puts, s.Fitted settings turns puts := by
  refine ⟨provider.receive_cases, ⟨?_, ?_⟩, ?_⟩
  · rintro ⟨engine, created, store, started⟩
    exact (Engine.start_eq_ok started).2.1
  · intro same
    have ensured := Memory.run_ensure before (Engine.collectionSpec settings)
    rw [show before.holds (Engine.collectionSpec settings).name = false from absent] at ensured
    rw [same]
    exact ⟨_, _, _, Engine.start_of_run valid ensured⟩
  · intro engine created store started turns s asks run
    obtain ⟨-, same, rfl, ensured⟩ := Engine.start_eq_ok started
    have created : store.Fits settings.collection settings.dimensions.toNat :=
      Memory.fits_of_ensure absent ensured
    have fits : store.Fits settings.collection provider.dimensions := same ▸ created
    have empty : store.points settings.collection = [] := by
      rw [(Memory.holds_of_ensure ensured).2, Memory.points_of_absent absent]
    obtain ⟨kept, fitting, puts, shelved⟩ := fitting_run fits empty asks run
    exact ⟨puts, fitting.fitted kept shelved same⟩

/-- A provider for the small cache. -/
def smallProvider : Embedding.Provider :=
  { apiKey := "key", model := "model", dimensions := 1, baseUrl := "http://localhost" }

/-- A run of the small cache in which one question is embedded and for another there is no vector in
the response, while others bring to its collection a point that it takes and one of another length.
-/
def smallTurns : List Turn :=
  let r : Record := ⟨"question", "answer", "model", 7⟩
  let embedded : Json := .obj [("data", .arr [.obj [("embedding", .arr [Json.ofNat 1])]])]
  [.own (.offer r), .own (.move 0 .acquire), .own (.move 0 .receive), .own (.offer r),
    .own (.embed 0 (smallProvider.receive (.ok embedded))), .other (.create ⟨"answers", 2⟩),
    .other (.upsert "answers" ⟨"other", [1, 1], []⟩), .other (.upsert "answers" ⟨"mine", [1], []⟩),
    .own (.upsert 0 "id" .null), .own (.move 1 .acquire), .own (.move 1 .receive),
    .own (.embed 1 (smallProvider.receive (.ok .null)))]

theorem run_fitted_small :
    ∃ s puts, Trace.run? turn? (opened (Engine.idle .small) Settings.smallStore) smallTurns =
        some s ∧
      s.ledger.ended = [(0, .stored), (1, .embedError)] ∧
      (s.store.points "answers").map (fun p => (p.id, p.payload)) =
        [("mine", []), ("id", [("answer", .str "answer"), ("model", .str "model"),
          ("question", .str "question"), ("timestamp", .null), ("tokenUsage", .ofUInt32 7)])] ∧
      s.Fitted .small smallTurns puts := by
  have happens : (Trace.run? turn? (opened (Engine.idle .small) Settings.smallStore)
      smallTurns).map (fun s => (s.ledger.ended,
        (s.store.points "answers").map fun p => (p.id, p.payload))) =
      some ([(0, .stored), (1, .embedError)],
        [("mine", []), ("id", [("answer", .str "answer"), ("model", .str "model"),
          ("question", .str "question"), ("timestamp", .null), ("tokenUsage", .ofUInt32 7)])]) :=
    rfl
  obtain ⟨s, run, facts⟩ := Option.map_eq_some_iff.mp happens
  obtain ⟨ended, points⟩ := Prod.mk.inj facts
  have asks : ∀ a, .own a ∈ smallTurns → a.Asks smallProvider := by
    intro a member
    simp only [smallTurns, List.mem_cons, Turn.own.injEq, reduceCtorEq, List.not_mem_nil, or_false,
      false_or] at member
    rcases member with rfl | rfl | rfl | rfl | rfl | rfl | rfl | rfl | rfl
    all_goals first | trivial | exact ⟨_, rfl⟩
  have valid : Settings.small.validate = .ok () := by decide +kernel
  have absent : Memory.holds {} Settings.small.collection = false := rfl
  obtain ⟨-, -, fitted⟩ := @run_fitted smallProvider .small {} valid absent
  obtain ⟨puts, fitted⟩ := fitted _ true _ Engine.start_small smallTurns s asks run
  exact ⟨s, puts, run, ended, points, fitted⟩

end Site

end Cache

end AnswerGateway
