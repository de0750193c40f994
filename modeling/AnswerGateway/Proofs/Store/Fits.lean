import AnswerGateway.Proofs.Store.Calls

/-!
A collection that fits the vectors that are brought to it. It stays as it is whatever is asked of
the store, takes every point of its length and nothing else, and has in it what was put there: a
point that was put stays until a later one takes its id over.
-/

namespace AnswerGateway.Store

section PutPoint

variable {p q : Point} {points : List Point}

theorem mem_putPoint_self (p : Point) (points : List Point) : p ∈ putPoint p points :=
  List.mem_of_find?_eq_some (find?_putPoint p points)

theorem mem_putPoint_of_mem (member : q ∈ points) (apart : q.id ≠ p.id) :
    q ∈ putPoint p points := by
  induction points with
  | nil => cases member
  | cons head rest ih =>
      by_cases same : head.id = p.id
      · rw [putPoint, if_pos same]
        rcases List.mem_cons.mp member with rfl | later
        · exact absurd same apart
        · exact List.mem_cons_of_mem p later
      · rw [putPoint, if_neg same]
        rcases List.mem_cons.mp member with rfl | later
        · exact List.mem_cons_self
        · exact List.mem_cons_of_mem head (ih later)

/-- A point that is there stays, or one of those that are put takes its id over. -/
theorem exists_mem_of_mem (member : p ∈ points) (puts : List Point) :
    ∃ q ∈ puts.foldl (fun points p => putPoint p points) points, q.id = p.id ∧
      (q = p ∨ q ∈ puts) := by
  induction puts generalizing p points with
  | nil => exact ⟨p, member, rfl, .inl rfl⟩
  | cons new rest ih =>
      by_cases same : p.id = new.id
      · obtain ⟨q, there, id, origin⟩ := ih (mem_putPoint_self new points)
        refine ⟨q, there, id.trans same.symm, .inr ?_⟩
        rcases origin with rfl | later
        · exact List.mem_cons_self
        · exact List.mem_cons_of_mem new later
      · obtain ⟨q, there, id, origin⟩ := ih (mem_putPoint_of_mem member same)
        exact ⟨q, there, id, origin.imp_right (List.mem_cons_of_mem new)⟩

/-- A point that was put is there, or one that was put later has taken its id over. -/
theorem exists_mem_of_put {puts : List Point} (member : p ∈ puts) :
    ∃ q ∈ puts.foldl (fun points p => putPoint p points) points, q.id = p.id ∧
      (q = p ∨ [p, q].Sublist puts) := by
  obtain ⟨before, later, rfl⟩ := List.append_of_mem member
  rw [List.foldl_append, List.foldl_cons]
  obtain ⟨q, there, id, origin⟩ := exists_mem_of_mem (mem_putPoint_self p _) later
  refine ⟨q, there, id, origin.imp_right fun after => ?_⟩
  exact (List.Sublist.cons_cons p (List.singleton_sublist.mpr after)).trans
    (List.sublist_append_right before _)

end PutPoint

/-- The point that a call puts into a collection for vectors of so many dimensions. -/
def Call.puts? (name : String) (dimensions : Nat) : Call → Option Point
  | .upsert other p => if other = name ∧ p.vector.length = dimensions then some p else none
  | _ => none

namespace Memory

/-- A collection is there for vectors of a length, and all that it holds have that length. -/
def Fits (m : Memory) (name : String) (dimensions : Nat) : Prop :=
  ∃ c, m.find? name = some c ∧ c.spec.dimensions = dimensions ∧
    ∀ p ∈ c.points, p.vector.length = dimensions

variable {m : Memory} {name : String} {dimensions : Nat}

/-- A new collection is empty, so it fits. -/
theorem fits_of_ensure {spec : CollectionSpec} {after : Memory} {created : Bool}
    (absent : m.holds spec.name = false)
    (ensured : (Ensure.run calls spec).run m = (.ok created, after)) :
    after.Fits spec.name spec.dimensions := by
  rw [run_ensure, absent] at ensured
  cases ensured
  have missing : m.find? spec.name = none := by simpa [holds] using absent
  refine ⟨⟨spec, []⟩, ?_, rfl, ?_⟩
  · rw [find?_append_new, missing, if_pos rfl, Option.none_or]
  · intro p member
    cases member

/-- No call makes a collection unfit: it stays, and takes nothing of another length. -/
theorem Fits.answer (fits : m.Fits name dimensions) (call : Call) :
    (m.answer call).2.Fits name dimensions := by
  obtain ⟨c, found, length, each⟩ := fits
  cases call with
  | look other | query other q => exact ⟨c, found, length, each⟩
  | create spec =>
      rcases m.create_cases spec with ⟨-, refused⟩ | ⟨-, created⟩
      · rw [Memory.answer, refused]
        exact ⟨c, found, length, each⟩
      · rw [Memory.answer, created]
        exact ⟨c, by rw [find?_append_new, found, Option.some_or], length, each⟩
  | upsert other p =>
      cases done : m.upsert other p with
      | mk result m' =>
          rw [Memory.answer, done]
          cases result with
          | error f =>
              obtain rfl := upsert_error done
              exact ⟨c, found, length, each⟩
          | ok =>
              obtain ⟨c', found', taken, rfl⟩ := upsert_ok_iff.mp done
              by_cases here : name = other
              · obtain rfl : c = c' := by
                  rw [here, found'] at found
                  exact (Option.some.inj found).symm
                refine ⟨c.put p, by rw [find?_upserted, if_pos here, found]; rfl, length, ?_⟩
                intro q member
                rcases mem_putPoint member with rfl | before
                · exact taken.trans length
                · exact each q before
              · exact ⟨c, by rw [find?_upserted, if_neg here, found], length, each⟩

/-- A collection takes a vector of the length that it is for. -/
theorem Fits.upsert {p : Point} (fits : m.Fits name dimensions)
    (length : p.vector.length = dimensions) :
    m.upsert name p = (.ok (), m.update name (·.put p)) := by
  obtain ⟨c, found, spec, -⟩ := fits
  exact upsert_ok_iff.mpr ⟨c, found, length.trans spec.symm, rfl⟩

/-- It takes no other. -/
theorem Fits.length_of_upsert {p : Point} {m' : Memory} (fits : m.Fits name dimensions)
    (done : m.upsert name p = (.ok (), m')) : p.vector.length = dimensions := by
  obtain ⟨c, found, spec, -⟩ := fits
  obtain ⟨c', found', taken, -⟩ := upsert_ok_iff.mp done
  obtain rfl : c = c' := Option.some.inj (found.symm.trans found')
  exact taken.trans spec

/-- Of all calls only those change what the collection holds that put a point into it. -/
theorem Fits.points_answer (fits : m.Fits name dimensions) (call : Call) :
    (m.answer call).2.points name =
      (call.puts? name dimensions).toList.foldl (fun points p => putPoint p points)
        (m.points name) := by
  cases call with
  | look | query => rfl
  | create spec =>
      rcases m.create_cases spec with ⟨-, refused⟩ | ⟨-, created⟩
      · rw [Memory.answer, refused]
        rfl
      · rw [Memory.answer, created]
        exact points_append m spec _ name
  | upsert other p =>
      rw [Memory.answer]
      rcases m.upsert_cases other p with ⟨f, refused⟩ | ⟨after, done, -, here, apart⟩
      · have notTaken : ¬(other = name ∧ p.vector.length = dimensions) := by
          rintro ⟨rfl, length⟩
          rw [fits.upsert length] at refused
          cases refused
        rw [refused, Call.puts?, if_neg notTaken]
        rfl
      · rw [done, Call.puts?]
        by_cases same : other = name
        · subst same
          rw [if_pos ⟨rfl, fits.length_of_upsert done⟩]
          exact here
        · rw [if_neg fun taken => same taken.1]
          exact apart name (Ne.symm same)

end Memory

end AnswerGateway.Store
