import AnswerGateway.Proofs.Cache.Step

/-!
What a started engine is: its settings were valid, the embedder gives vectors of the right length,
and nothing has happened yet.
-/

namespace AnswerGateway.Cache

namespace Engine

variable {σ : Type} {calls : Store.Ensure.Calls (StateM σ)} {settings : Settings}
  {dimensions : Nat} {before after : σ} {engine : Engine} {created : Bool}

/-- An engine that has started had valid settings, and it stands idle. -/
theorem start_eq_ok (h : (start calls settings dimensions).run before =
      (.ok (engine, created), after)) :
    settings.validate = .ok () ∧ dimensions = settings.dimensions.toNat ∧
      engine = idle settings ∧
      (Store.Ensure.run calls (collectionSpec settings)).run before = (.ok created, after) := by
  unfold start at h
  split at h
  · cases h
  · rename_i valid
    split at h
    · cases h
    · rename_i same
      cases hrun : (Store.Ensure.run calls (collectionSpec settings)).run before with
      | mk result later =>
          simp only [StateT.run_bind, hrun] at h
          cases result with
          | error f => cases h
          | ok made =>
              cases h
              exact ⟨valid, by simpa using same, rfl, rfl⟩

/-- With valid settings, an engine starts that has made sure of its collection. -/
theorem start_of_run (valid : settings.validate = .ok ())
    (run : (Store.Ensure.run calls (collectionSpec settings)).run before = (.ok created, after)) :
    (start calls settings settings.dimensions.toNat).run before =
      (.ok (idle settings, created), after) := by
  unfold start
  rw [valid]
  simp only [ne_eq, not_true_eq_false, if_false, StateT.run_bind, run]
  rfl

/-- Valid settings ask for vectors, workers and room in the queue. -/
theorem ne_zero_of_valid (valid : settings.validate = .ok ()) :
    settings.dimensions ≠ 0 ∧ settings.workers ≠ 0 ∧ settings.queueCapacity ≠ 0 := by
  unfold Settings.validate Settings.refuse at valid
  split at valid
  · cases valid
  · split at valid
    · cases valid
    · rename_i hdimensions
      split at valid
      · cases valid
      · split at valid
        · cases valid
        · rename_i hworkers
          split at valid
          · cases valid
          · rename_i hcapacity
            exact ⟨hdimensions, hworkers, hcapacity⟩

theorem workers_pos (valid : settings.validate = .ok ()) : 0 < settings.workers.toNat :=
  Nat.pos_of_ne_zero fun h => (ne_zero_of_valid valid).2.1 (UInt64.toNat_inj.mp h)

end Engine

/-- Settings of a cache so small that its runs can be followed by hand. -/
def Settings.small : Settings :=
  { collection := "answers", dimensions := 1, workers := 2, queueCapacity := 1 }

def Settings.smallStore : Store.Memory :=
  (({} : Store.Memory).ensure (Engine.collectionSpec .small)).2

theorem Engine.start_small :
    (Engine.start Store.Memory.calls .small 1).run {} =
      (.ok (Engine.idle .small, true), Settings.smallStore) := rfl

end AnswerGateway.Cache
