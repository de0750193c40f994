import AnswerGateway.Proofs.Embedding.Order
import AnswerGateway.Store.Memory

/-!
The best answer to a question. The points that a question admits are sorted by their likeness, and
the sorting keeps those that are alike in their order; so the first answer is the first of the best
in the order of the store. Points that are not admitted make no difference to it.
-/

namespace AnswerGateway.Store

variable {α β : Type}

/-- The first of the best: what stands before it scores less, and what stands behind it no more. -/
def FirstBest (score : α → Float32) (l : List α) (a : α) : Prop :=
  ∃ before after, l = before ++ a :: after ∧ (∀ b ∈ before, score b < score a) ∧
    ∀ b ∈ after, score b ≤ score a

namespace FirstBest

variable {score : α → Float32} {l : List α} {a b : α}

theorem mem (h : FirstBest score l a) : a ∈ l := by
  obtain ⟨before, after, rfl, -⟩ := h
  exact List.mem_append_right before List.mem_cons_self

/-- Of two places in a list, the earlier one is the first of the best only if it is the later one
too. -/
private theorem eq_of_split {before after before' after' middle : List α}
    (places : before' = before ++ middle) (same : a :: after = middle ++ b :: after')
    (most : ∀ c ∈ after, score c ≤ score a) (less : ∀ c ∈ before', score c < score b) :
    a = b := by
  cases middle with
  | nil => exact (List.cons.inj same).1
  | cons c rest =>
      obtain ⟨rfl, rfl⟩ := List.cons.inj same
      have below : score a < score b := by
        apply less
        rw [places]
        exact List.mem_append_right before List.mem_cons_self
      have above : score b ≤ score a := by
        apply most
        exact List.mem_append_right rest List.mem_cons_self
      exact absurd above (Score.not_le_of_lt below)

theorem unique (h : FirstBest score l a) (h' : FirstBest score l b) : a = b := by
  obtain ⟨before, after, rfl, less, most⟩ := h
  obtain ⟨before', after', same, less', most'⟩ := h'
  rcases List.append_eq_append_iff.mp same with ⟨middle, places, rest⟩ | ⟨middle, places, rest⟩
  · exact eq_of_split places rest most less'
  · exact (eq_of_split places rest most' less).symm

/-- What comes behind a list takes the place of its best only by a greater score. -/
theorem append {more : List α} (h : FirstBest score l a) (h' : FirstBest score (l ++ more) b) :
    b = a ∨ b ∈ more ∧ score a < score b := by
  obtain ⟨before, after, same, less, most⟩ := h'
  rcases List.append_eq_append_iff.mp same with ⟨middle, places, rest⟩ | ⟨middle, places, rest⟩
  · right
    constructor
    · rw [rest]
      exact List.mem_append_right middle List.mem_cons_self
    · apply less
      rw [places]
      exact List.mem_append_left middle h.mem
  · cases middle with
    | nil =>
        right
        rw [List.nil_append] at rest
        rw [List.append_nil] at places
        constructor
        · rw [← rest]
          exact List.mem_cons_self
        · apply less
          rw [← places]
          exact h.mem
    | cons c inside =>
        left
        obtain ⟨rfl, rfl⟩ := List.cons.inj rest
        have within : FirstBest score l b := by
          refine ⟨before, inside, places, less, ?_⟩
          intro c member
          exact most c (List.mem_append_left more member)
        exact within.unique h

theorem of_map {f : β → α} {l : List β} (h : FirstBest score (l.map f) a) :
    ∃ b, f b = a ∧ FirstBest (fun b => score (f b)) l b := by
  obtain ⟨before, after, same, less, most⟩ := h
  obtain ⟨first, rest, rfl, rfl, hrest⟩ := List.map_eq_append_iff.mp same
  obtain ⟨b, second, rfl, rfl, rfl⟩ := List.map_eq_cons_iff.mp hrest
  refine ⟨b, rfl, first, second, rfl, ?_, ?_⟩
  · intro c member
    exact less (f c) (List.mem_map_of_mem member)
  · intro c member
    exact most (f c) (List.mem_map_of_mem member)

end FirstBest

/-- Sorting by a key, the greatest first, brings the first of the greatest to the front. -/
theorem head_mergeSort [LinearOrder β] (key : α → β) {l : List α} {a : α}
    (h : (l.mergeSort fun a b => decide (key b ≤ key a)).head? = some a) :
    ∃ before after, l = before ++ a :: after ∧ (∀ b ∈ before, key b < key a) ∧
      ∀ b ∈ after, key b ≤ key a := by
  have trans : ∀ a b c, decide (key b ≤ key a) = true → decide (key c ≤ key b) = true →
      decide (key c ≤ key a) = true := by
    intro a b c hba hcb
    exact decide_eq_true (le_trans (of_decide_eq_true hcb) (of_decide_eq_true hba))
  have total : ∀ a b, (decide (key b ≤ key a) || decide (key a ≤ key b)) = true := by
    intro a b
    simpa using le_total (key b) (key a)
  induction l generalizing a with
  | nil => simp at h
  | cons x rest ih =>
      obtain ⟨front, back, sorted, sortedRest, greater⟩ := List.mergeSort_cons trans total x rest
      rw [sorted] at h
      cases front with
      | nil =>
          obtain rfl : x = a := by simpa using h
          refine ⟨[], rest, rfl, fun b member => (nomatch member), ?_⟩
          have ordered := List.pairwise_mergeSort trans total (x :: rest)
          rw [sorted, List.nil_append, List.pairwise_cons] at ordered
          intro b member
          have inBack : b ∈ back := by
            rw [List.nil_append] at sortedRest
            rw [← sortedRest, List.mem_mergeSort]
            exact member
          exact of_decide_eq_true (ordered.1 b inBack)
      | cons y more =>
          obtain rfl : y = a := by simpa using h
          have head : (rest.mergeSort fun a b => decide (key b ≤ key a)).head? = some y := by
            rw [sortedRest]
            rfl
          obtain ⟨before, after, rfl, less, most⟩ := ih head
          have above : key x < key y := by simpa using greater y List.mem_cons_self
          refine ⟨x :: before, after, rfl, ?_, most⟩
          intro b member
          rcases List.mem_cons.mp member with rfl | later
          · exact above
          · exact less b later

/-- Two comparisons that agree about the elements of a list sort it alike. -/
theorem mergeSort_congr {l : List α} {le le' : α → α → Bool}
    (agree : ∀ a ∈ l, ∀ b ∈ l, le a b = le' a b) : l.mergeSort le = l.mergeSort le' := by
  have mapped : (l.mergeSort le).map id = (l.map id).mergeSort le' := List.map_mergeSort agree
  rwa [List.map_id, List.map_id] at mapped

/-- Scores that are numbers are sorted as their ranks are. -/
theorem mergeSort_rank {score : α → Float32} {l : List α}
    (numbers : ∀ a ∈ l, (score a).isNaN = false) :
    (l.mergeSort fun a b => decide (score b ≤ score a)) =
      l.mergeSort fun a b => decide (Score.rank (score b) ≤ Score.rank (score a)) := by
  refine mergeSort_congr ?_
  intro a ha b hb
  rw [decide_eq_decide, Score.le_iff]
  constructor
  · intro above
    exact above.2.2
  · intro above
    exact ⟨numbers b hb, numbers a ha, above⟩

/-- The same of scores, if all of them are numbers. -/
theorem FirstBest.of_sorted {score : α → Float32} {l : List α} {a : α}
    (numbers : ∀ b ∈ l, (score b).isNaN = false)
    (h : (l.mergeSort fun a b => decide (score b ≤ score a)).head? = some a) :
    FirstBest score l a := by
  rw [mergeSort_rank numbers] at h
  obtain ⟨before, after, rfl, less, most⟩ := head_mergeSort (fun b => Score.rank (score b)) h
  have last := numbers a (List.mem_append_right before List.mem_cons_self)
  refine ⟨before, after, rfl, ?_, ?_⟩
  · intro b member
    exact Score.lt_iff.mpr ⟨numbers b (List.mem_append_left _ member), last, less b member⟩
  · intro b member
    have number := numbers b (List.mem_append_right before (List.mem_cons_of_mem a member))
    exact Score.le_iff.mpr ⟨number, last, most b member⟩

namespace Query

variable (q : Query)

/-- Whether a point can be an answer. -/
def admits (p : Point) : Bool :=
  decide (q.threshold ≤ q.vector.cosine p.vector) && q.filter.holds p.payload

def scoredPoint (p : Point) : ScoredPoint :=
  { id := p.id, score := q.vector.cosine p.vector, payload := p.payload }

theorem filter_scored (points : List Point) :
    (q.scored points).filter (fun p => q.threshold ≤ p.score) =
      (points.filter q.admits).map q.scoredPoint := by
  rw [scored, List.filter_map, List.filter_filter]
  rfl

/-- The first answer is the first of the best of the points that are admitted; there is none only if
no point is. -/
theorem head_answer (asks : 0 < q.limit) (points : List Point) :
    (∃ p, FirstBest (fun p => q.vector.cosine p.vector) (points.filter q.admits) p ∧
        (q.answer points).head? = some (q.scoredPoint p)) ∨
      points.filter q.admits = [] ∧ (q.answer points).head? = none := by
  have head : (q.answer points).head? =
      (((points.filter q.admits).map q.scoredPoint).mergeSort
        fun a b => decide (b.score ≤ a.score)).head? := by
    rw [answer, filter_scored, List.head?_take, if_neg (Nat.ne_of_gt asks)]
  rw [head]
  cases sorted : (((points.filter q.admits).map q.scoredPoint).mergeSort
      fun a b => decide (b.score ≤ a.score)).head? with
  | none =>
      right
      have empty := List.head?_eq_none_iff.mp sorted
      have length := congrArg List.length empty
      rw [List.length_mergeSort, List.length_map, List.length_nil] at length
      exact ⟨List.length_eq_zero_iff.mp length, rfl⟩
  | some found =>
      left
      have numbers : ∀ b ∈ (points.filter q.admits).map q.scoredPoint, b.score.isNaN = false := by
        intro b member
        obtain ⟨p, hp, rfl⟩ := List.mem_map.mp member
        have admitted := (List.mem_filter.mp hp).2
        rw [admits, Bool.and_eq_true, decide_eq_true_eq] at admitted
        exact (Score.le_iff.mp admitted.1).2.1
      obtain ⟨p, rfl, best⟩ := (FirstBest.of_sorted numbers sorted).of_map
      exact ⟨p, best, rfl⟩

end Query

end AnswerGateway.Store
