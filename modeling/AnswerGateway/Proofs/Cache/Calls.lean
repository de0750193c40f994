import AnswerGateway.Proofs.Cache.Ledger

/-!
The calls that workers make for records. A record that waits has had none; for one in the hands of a
worker, the worker's place says which were answered; one whose writing has ended was embedded once
and, unless that failed, brought to the store once.
-/

namespace AnswerGateway.Cache

/-- A point that keeps a record whole: beside the vector of its question it has the texts of the
record, its number of tokens and a time, and nothing else. -/
structure Carries (p : Store.Point) (r : Record) (v : Vector) : Prop where
  vector : p.vector = v
  question : p.payload.lookup "question" = some (.str r.prompt)
  answer : p.payload.lookup "answer" = some (.str r.response)
  model : p.payload.lookup "model" = some (.str r.model)
  tokenUsage : p.payload.lookup "tokenUsage" = some (Json.ofUInt32 r.tokenUsage)
  fields : p.payload.map Prod.fst = ["answer", "model", "question", "timestamp", "tokenUsage"]

theorem carries_pointOf (id : String) (time : Json) (r : Record) (v : Vector) :
    Carries (Engine.pointOf id time r v) r v :=
  ⟨rfl, rfl, rfl, rfl, rfl, rfl⟩

/-- But for its id and its time, a point that keeps a record whole is settled by the record. -/
theorem Carries.eq_pointOf {p : Store.Point} {r : Record} {v : Vector} (h : Carries p r v) :
    ∃ id time, p = Engine.pointOf id time r v := by
  obtain ⟨id, vector, payload⟩ := p
  -- The names of the fields make the payload a list of five.
  obtain ⟨a, b, c, time, e, rfl⟩ : ∃ a b c time e, payload =
      [("answer", a), ("model", b), ("question", c), ("timestamp", time), ("tokenUsage", e)] := by
    have fields : payload.map Prod.fst =
      ["answer", "model", "question", "timestamp", "tokenUsage"] := h.fields
    simp only [List.map_eq_cons_iff, List.map_eq_nil_iff, Prod.exists] at fields
    grind
  obtain rfl : vector = v := h.vector
  cases Option.some.inj h.question
  cases Option.some.inj h.answer
  cases Option.some.inj h.model
  cases Option.some.inj h.tokenUsage
  exact ⟨id, time, rfl⟩

/-- The calls of a record whose writing has ended. There is one embedding, of the record's question;
unless it failed, there is one point for the store, which carries the whole record. -/
inductive Written (collection : String) (r : Record) : Metrics.Write → List Call → Prop where
  | stored {v : Vector} {p : Store.Point} (carries : Carries p r v) :
      Written collection r .stored [.embed r.prompt (.ok v), .upsert collection p (.ok ())]
  | embedError (f : Fault) : Written collection r .embedError [.embed r.prompt (.error f)]
  | upsertError {v : Vector} {p : Store.Point} (carries : Carries p r v) (f : Fault) :
      Written collection r .upsertError
        [.embed r.prompt (.ok v), .upsert collection p (.error f)]

theorem Written.upsert (collection : String) {r : Record} {v : Vector} {p : Store.Point}
    (carries : Carries p r v) (answer : Except Fault Unit) :
    Written collection r (writeOf answer)
      [.embed r.prompt (.ok v), .upsert collection p answer] := by
  cases answer with
  | ok => exact .stored carries
  | error f => exact .upsertError carries f

def Worker.answered : Worker → List Call
  | .storing r v _ => [.embed r.prompt (.ok v)]
  | _ => []

namespace Ledger

/-- The calls that have been made for records. -/
structure Called (l : Ledger) (e : Engine) : Prop where
  untouched : ∀ n, l.taken.length ≤ n → l.callsOf n = []
  underway : ∀ index w n, e.workers[index]? = some w → l.inHand? index = some n →
    l.callsOf n = w.answered
  written : ∀ n write, (n, write) ∈ l.ended →
    ∃ r, l.taken[n]? = some r ∧ Written e.collection r write (l.callsOf n)

namespace Called

variable {l : Ledger} {e : Engine} {index n : Nat} {w : Worker} {r : Record}

theorem accept (h : l.Called e) (r : Record) :
    (l.accept r).Called { e with queue := e.queue ++ [r] } :=
  ⟨h.untouched, h.underway, h.written⟩

theorem withFreeWorker {w' : Worker} (h : l.Called e) (numbered : l.Numbered e)
    (stands : e.workers[index]? = some w) (free : w.record? = none) :
    l.Called (e.withWorker index w') := by
  refine ⟨h.untouched, ?_, h.written⟩
  intro other wOther n hOther hand
  rcases getElem?_set_cases hOther with ⟨rfl, -⟩ | ⟨-, hOther⟩
  · have hfree := numbered.handFree stands free
    simp [inHand?, hfree] at hand
  · exact h.underway other wOther n hOther hand

/-- A worker takes a record for which nothing has been called yet. -/
theorem take {d : Bool} {rest : List Record} (h : l.Called e) (numbered : l.Numbered e)
    (stands : e.workers[index]? = some w) :
    (l.take index r).Called
      { e.withWorker index (.embedding r d) with queue := rest } := by
  refine ⟨?_, ?_, ?_⟩
  · intro n hle
    simp only [Ledger.take, List.length_append, List.length_singleton] at hle
    exact h.untouched n (by omega)
  · intro other wOther n hOther hand
    rcases getElem?_set_cases hOther with ⟨rfl, rfl⟩ | ⟨same, hOther⟩
    · obtain ⟨hhand, hlookup, -⟩ := numbered.hand_of_worker stands
      have hhands := (List.getElem?_eq_some_iff.mp hlookup).1
      obtain rfl : l.taken.length = n := by
        simpa [Ledger.take, inHand?, List.getElem?_set_self hhands] using hand
      exact h.untouched _ (Nat.le_refl _)
    · have hand' : l.inHand? other = some n := by
        simpa [Ledger.take, inHand?, List.getElem?_set_ne same] using hand
      exact h.underway other wOther n hOther hand'
  · intro n write ended
    obtain ⟨r', htaken, hwritten⟩ := h.written n write ended
    refine ⟨r', ?_, hwritten⟩
    simp only [Ledger.take]
    rw [List.getElem?_append_left (numbered.lt_of_ended ended)]
    exact htaken

private theorem callsOf_call_ne {c : Call} {m : Nat} (hand : l.inHand? index = some n)
    (differs : m ≠ n) : (l.call index c).callsOf m = l.callsOf m := by
  rw [callsOf_call l index n m c hand, if_neg (Ne.symm differs), List.append_nil]

private theorem callsOf_call_self {c : Call} (h : l.Called e)
    (stands : e.workers[index]? = some w) (hand : l.inHand? index = some n) :
    (l.call index c).callsOf n = w.answered ++ [c] := by
  rw [callsOf_call l index n n c hand, if_pos rfl, h.underway index w n stands hand]

/-- The embedder has answered, and the worker turns to the store. -/
theorem embedded {d : Bool} {v : Vector} (h : l.Called e) (numbered : l.Numbered e)
    (stands : e.workers[index]? = some (.embedding r d)) :
    (l.call index (.embed r.prompt (.ok v))).Called
      (e.withWorker index (.storing r v d)) := by
  obtain ⟨n, hand, htaken⟩ := numbered.inHand stands rfl
  have hlt := numbered.lt_of_hand (hands_of_inHand hand)
  refine ⟨?_, ?_, ?_⟩
  · intro m hle
    rw [taken_call] at hle
    rw [callsOf_call_ne hand (by omega)]
    exact h.untouched m hle
  · intro other wOther m hOther hand'
    rw [inHand?_call] at hand'
    rcases getElem?_set_cases hOther with ⟨rfl, rfl⟩ | ⟨same, hOther⟩
    · obtain rfl : n = m := Option.some.inj (hand.symm.trans hand')
      rw [callsOf_call_self h stands hand]
      rfl
    · have differs : m ≠ n := fun heq =>
        same (numbered.inHand_injective hand (heq ▸ hand'))
      rw [callsOf_call_ne hand differs]
      exact h.underway other wOther m hOther hand'
  · intro m write ended
    rw [ended_call] at ended
    have differs : m ≠ n := fun heq => numbered.not_inHand_of_ended ended (heq ▸ hand)
    rw [callsOf_call_ne hand differs, taken_call]
    exact h.written m write ended

/-- The last call for a record has been answered, and the worker is free again. -/
theorem finish {d : Bool} {c : Call} {write : Metrics.Write} (h : l.Called e)
    (numbered : l.Numbered e) (stands : e.workers[index]? = some w)
    (busy : w.record? = some r) (written : Written e.collection r write (w.answered ++ [c])) :
    ((l.call index c).finish index write).Called (e.withWorker index (.next d)) := by
  obtain ⟨n, hand, htaken⟩ := numbered.inHand stands busy
  have hlt := numbered.lt_of_hand (hands_of_inHand hand)
  have hand' : (l.call index c).inHand? index = some n := by rw [inHand?_call, hand]
  have hfinish := finish_of_inHand write hand'
  refine ⟨?_, ?_, ?_⟩
  · intro m hle
    simp only [hfinish, taken_call] at hle
    rw [callsOf_finish, callsOf_call_ne hand (by omega)]
    exact h.untouched m hle
  · intro other wOther m hOther hhand
    rw [callsOf_finish]
    rcases getElem?_set_cases hOther with ⟨rfl, -⟩ | ⟨same, hOther⟩
    · have hindex := (List.getElem?_eq_some_iff.mp (hands_of_inHand hand)).1
      simp [hfinish, inHand?, List.getElem?_set_self hindex] at hhand
    · have hother : l.inHand? other = some m := by
        simpa [hfinish, inHand?, List.getElem?_set_ne same] using hhand
      have differs : m ≠ n := fun heq =>
        same (numbered.inHand_injective hand (heq ▸ hother))
      rw [callsOf_call_ne hand differs]
      exact h.underway other wOther m hOther hother
  · intro m write' ended
    simp only [hfinish, ended_call, List.mem_append, List.mem_singleton] at ended
    rw [callsOf_finish]
    simp only [hfinish, taken_call]
    rcases ended with before | now
    · have differs : m ≠ n := fun heq => numbered.not_inHand_of_ended before (heq ▸ hand)
      rw [callsOf_call_ne hand differs]
      exact h.written m write' before
    · cases now
      rw [callsOf_call_self h stands hand]
      exact ⟨r, htaken, written⟩

end Called

end Ledger

namespace Site

variable {σ : Type} {calls : StoreCalls σ}

/-- Every step keeps account of the calls. -/
theorem called_step {s s' : Site σ} {a : Action} (h : s.ledger.Called s.engine)
    (numbered : s.ledger.Numbered s.engine) (step : Step calls s a s') :
    s'.ledger.Called s'.engine := by
  cases step with
  | accepted => exact h.accept _
  | dropped => exact h
  | turned stands _ before => exact h.withFreeWorker numbered stands before
  | took stands => exact h.take numbered stands
  | embedded stands => exact h.embedded numbered stands
  | notEmbedded stands => exact h.finish numbered stands rfl (.embedError _)
  | wrote stands => exact h.finish numbered stands rfl (.upsert _ (carries_pointOf _ _ _ _) _)
  | lookedUp => simpa using h
  | shutdown => exact ⟨h.untouched, h.underway, h.written⟩
  | shutdownReturned => exact h

end Site

end AnswerGateway.Cache
