import AnswerGateway.Proofs.Cache.Start
import AnswerGateway.Proofs.Store.Shared

/-!
The length of the vectors that a started engine works with. An engine starts only if its embedder
gives vectors of the length that its settings ask for; but a collection of its name that is there,
or that another instance creates first, is taken as it is. So the length of the vectors in the
collection is what the first one asked for who created it, and an engine that was not the first may
start although none of its vectors will ever be kept.
-/

namespace AnswerGateway.Cache

open Store

namespace Engine

/-- When an engine has started, its collection is there, and it is for vectors of the length that
was asked for by the first call to create it, be it the engine's own, an earlier one or one of
others meanwhile. The engine's vectors are kept exactly if that is their length. Whether the engine
starts does not depend on it. -/
theorem start_collection {earlier : List Store.Call} {others : List (List Store.Call)}
    {settings : Settings} {dimensions : Nat} {engine : Engine} {created : Bool} {after : Shared}
    (started : (start Shared.calls settings dimensions).run (.opened earlier others) =
      (.ok (engine, created), after)) :
    after.store = Memory.after {} after.log ∧ earlier <+: after.log ∧
    (∃ c, after.store.find? engine.collection = some c ∧
      firstCreation? engine.collection after.log = some c.spec ∧
      (created = true → c.spec.dimensions = dimensions) ∧
      ∀ later p, p.vector.length = dimensions →
        (((after.store.after later).upsert engine.collection p).1 = .ok () ↔
          c.spec.dimensions = dimensions)) ∧
    ∀ earlier' others', ∃ created' after',
      (start Shared.calls settings dimensions).run (.opened earlier' others') =
        (.ok (engine, created'), after') := by
  obtain ⟨valid, rfl, rfl, run⟩ := start_eq_ok started
  obtain ⟨created', after', c, run', follows, found, own⟩ :=
    Shared.run_ensure (collectionSpec settings) (.opened earlier others)
  obtain ⟨same, rfl⟩ := Prod.mk.inj (run'.symm.trans run)
  obtain rfl := Except.ok.inj same
  change after'.store.find? (idle settings).collection = some c at found
  obtain ⟨made, logged, specs⟩ := follows.of_opened
  refine ⟨made, logged, ⟨c, found, ?_, ?_, ?_⟩, ?_⟩
  · rw [← specs, found]
    rfl
  · intro mine
    rw [own mine]
    rfl
  · intro later p length
    rw [Memory.upsert_later_iff found, length, eq_comm]
  · intro earlier' others'
    obtain ⟨created', after', c', run', -⟩ :=
      Shared.run_ensure (collectionSpec settings) (.opened earlier' others')
    exact ⟨created', after', start_of_run valid run'⟩

/-- An engine that is the only one has created its collection itself. -/
theorem start_collection_alone :
    ∃ (after : Shared) (c : Collection),
      (start Shared.calls .small 1).run (.opened [] []) = (.ok (idle .small, true), after) ∧
        after.store.find? "answers" = some c ∧ c.spec.dimensions = 1 := by
  have started : (start Shared.calls .small 1).run (.opened [] []) =
      (.ok (idle .small, true), _) := rfl
  obtain ⟨-, -, ⟨c, found, -, own, -⟩, -⟩ := start_collection started
  exact ⟨_, c, started, found, own rfl⟩

/-- An engine for vectors of length one starts on a collection for vectors of length two, whether it
was there before or is created between the engine's look and its own attempt. -/
theorem start_mismatched :
    (∃ after : Shared, (start Shared.calls .small 1).run (.opened [.create ⟨"answers", 2⟩] []) =
        (.ok (idle .small, false), after) ∧
      (after.store.find? "answers").map (·.spec.dimensions) = some 2) ∧
    ∃ after : Shared, (start Shared.calls .small 1).run
        (.opened [] [[], [.create ⟨"answers", 2⟩]]) = (.ok (idle .small, false), after) ∧
      (after.store.find? "answers").map (·.spec.dimensions) = some 2 :=
  ⟨⟨_, rfl, rfl⟩, _, rfl, rfl⟩

end Engine

end AnswerGateway.Cache
