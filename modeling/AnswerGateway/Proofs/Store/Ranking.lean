import AnswerGateway.Proofs.Store.Best
import AnswerGateway.Proofs.Store.Calls

/-!
The whole answer to a question. The points that a question admits are ranked: the greatest score
comes first, and points that score the same keep the order in which they came. There is one such
ranking, and the answer is as much of it as was asked for. A score that is not a number is at least
no threshold, so it is never ranked, and any two scores that are ranked can be compared.
-/

namespace AnswerGateway.Store

variable {α : Type} {score : α → Float32} {l ranked other : List α}

/-- Whether a list is another one, ranked by its scores: the greatest comes first, and what scores
the same stands in the order that it had. -/
structure Ranked (score : α → Float32) (l ranked : List α) : Prop where
  same : ranked.Perm l
  ordered : ranked.Pairwise fun a b => score b ≤ score a
  stable : ∀ x, (ranked.filter fun a => score a == x) = l.filter fun a => score a == x

namespace Ranked

/-- Without its first, which is also the first of the other list, a list is still ranked. -/
theorem tail {a : α} (h : Ranked score (a :: l) (a :: ranked)) : Ranked score l ranked := by
  refine ⟨h.same.cons_inv, (List.pairwise_cons.mp h.ordered).2, ?_⟩
  intro x
  have stable := h.stable x
  rw [List.filter_cons, List.filter_cons] at stable
  split at stable
  · exact (List.cons.inj stable).2
  · exact stable

/-- The first of a list that is ordered already is the first of its ranking: both are the greatest,
so the ties with the one are the ties with the other. -/
theorem head_eq {a b : α} (numbers : ∀ c ∈ a :: l, (score c).isNaN = false)
    (ordered : (a :: l).Pairwise fun a b => score b ≤ score a)
    (h : Ranked score (a :: l) (b :: ranked)) : b = a := by
  have number := numbers a List.mem_cons_self
  have number' := numbers b (h.same.mem_iff.mp List.mem_cons_self)
  have below : Score.rank (score b) ≤ Score.rank (score a) := by
    rcases List.mem_cons.mp (h.same.mem_iff.mp List.mem_cons_self) with rfl | later
    · exact le_refl _
    · exact (Score.le_iff.mp ((List.pairwise_cons.mp ordered).1 b later)).2.2
  have above : Score.rank (score a) ≤ Score.rank (score b) := by
    rcases List.mem_cons.mp (h.same.mem_iff.mpr List.mem_cons_self) with rfl | later
    · exact le_refl _
    · exact (Score.le_iff.mp ((List.pairwise_cons.mp h.ordered).1 a later)).2.2
  have self : (score a == score a) = true := Score.beq_iff.mpr ⟨number, number, rfl⟩
  have tie : (score b == score a) = true :=
    Score.beq_iff.mpr ⟨number', number, below.antisymm above⟩
  have heads := h.stable (score a)
  rw [List.filter_cons, List.filter_cons, if_pos tie, if_pos self] at heads
  exact (List.cons.inj heads).1

/-- A list that is ordered already is ranked as it stands, and not otherwise. -/
theorem eq_of_ordered (numbers : ∀ a ∈ l, (score a).isNaN = false)
    (ordered : l.Pairwise fun a b => score b ≤ score a) (h : Ranked score l ranked) :
    ranked = l := by
  induction l generalizing ranked with
  | nil => exact h.same.eq_nil
  | cons a rest ih =>
      cases ranked with
      | nil => exact absurd h.same.symm.eq_nil (List.cons_ne_nil a rest)
      | cons b more =>
          obtain rfl := head_eq numbers ordered h
          have numbers' (c : α) (member : c ∈ rest) : (score c).isNaN = false :=
            numbers c (List.mem_cons_of_mem b member)
          rw [ih numbers' (List.pairwise_cons.mp ordered).2 h.tail]

/-- There is only one ranking of a list. -/
theorem unique (numbers : ∀ a ∈ l, (score a).isNaN = false) (h : Ranked score l ranked)
    (h' : Ranked score l other) : other = ranked := by
  have between : Ranked score ranked other := by
    refine ⟨h'.same.trans h.same.symm, h'.ordered, ?_⟩
    intro x
    rw [h'.stable, h.stable]
  exact eq_of_ordered (fun a member => numbers a (h.same.mem_iff.mp member)) h.ordered between

/-- To sort a list by its scores, the greatest first, is to rank it. -/
theorem of_sorted (numbers : ∀ a ∈ l, (score a).isNaN = false) :
    Ranked score l (l.mergeSort fun a b => score b ≤ score a) := by
  let key (a : α) : Rank := Score.rank (score a)
  have trans (a b c : α) (hba : decide (key b ≤ key a) = true)
      (hcb : decide (key c ≤ key b) = true) : decide (key c ≤ key a) = true :=
    decide_eq_true (le_trans (of_decide_eq_true hcb) (of_decide_eq_true hba))
  have total (a b : α) : (decide (key b ≤ key a) || decide (key a ≤ key b)) = true := by
    simpa using le_total (key b) (key a)
  have same := List.mergeSort_perm l fun a b => decide (key b ≤ key a)
  rw [mergeSort_rank numbers]
  refine ⟨same, ?_, ?_⟩
  · have ordered := List.pairwise_mergeSort trans total l
    refine ordered.imp_of_mem ?_
    intro a b ha hb le
    exact Score.le_iff.mpr ⟨numbers b (same.mem_iff.mp hb), numbers a (same.mem_iff.mp ha),
      of_decide_eq_true le⟩
  · intro x
    -- What ties is ordered already, so sorting leaves it as it is.
    have tied : (l.filter fun a => score a == x).Pairwise
        fun a b => decide (key b ≤ key a) = true := by
      refine List.pairwise_of_forall_mem_list ?_
      intro a ha b hb
      have left := (Score.beq_iff.mp (List.mem_filter.mp ha).2).2.2
      have right := (Score.beq_iff.mp (List.mem_filter.mp hb).2).2.2
      exact decide_eq_true (right.trans left.symm).le
    have inside := List.sublist_mergeSort trans total tied List.filter_sublist
    have kept := inside.filter fun a => score a == x
    rw [List.filter_filter] at kept
    simp only [Bool.and_self] at kept
    exact (kept.eq_of_length (same.filter _).length_eq.symm).symm

/-- What is cut off scores no more than what is left. -/
theorem le_of_cut (h : Ranked score l ranked) {limit : Nat} {a b : α}
    (left : a ∈ ranked.take limit) (cut : b ∈ ranked.drop limit) : score b ≤ score a := by
  have ordered := h.ordered
  rw [← List.take_append_drop limit ranked, List.pairwise_append] at ordered
  exact ordered.2.2 a left b cut

end Ranked

namespace Query

variable (q : Query) {points : List Point}

/-- A point is admitted if it has a text in each field that the filter names, and the right one, and
reaches the threshold. -/
theorem admits_iff (p : Point) :
    q.admits p = true ↔
      (∀ name value, (name, value) ∈ q.filter.conditions →
        p.payload.lookup name = some (.str value)) ∧
      q.threshold ≤ q.vector.cosine p.vector := by
  have text (name value : String) :
      p.payload.text? name = some value ↔ p.payload.lookup name = some (.str value) := by
    rw [Payload.text?, Option.bind_eq_some_iff]
    constructor
    · rintro ⟨j, found, text⟩
      cases j with
      | str s => rw [found, Option.some.inj text]
      | null | bool | int | double | arr | obj => cases text
    · intro found
      exact ⟨_, found, rfl⟩
  rw [admits, Bool.and_eq_true, decide_eq_true_eq, Filter.holds, List.all_eq_true, and_comm]
  simp only [beq_iff_eq, text, Prod.forall]

/-- The points that are admitted, in the order in which they came, with their scores. -/
def candidates (points : List Point) : List ScoredPoint :=
  (points.filter q.admits).map q.scoredPoint

theorem score_scoredPoint (p : Point) : (q.scoredPoint p).score = q.vector.cosine p.vector := rfl

theorem mem_candidates {a : ScoredPoint} :
    a ∈ q.candidates points ↔ ∃ p ∈ points, q.admits p = true ∧ q.scoredPoint p = a := by
  simp [candidates, and_assoc]

theorem reaches_of_mem {a : ScoredPoint} (member : a ∈ q.candidates points) :
    q.threshold ≤ a.score := by
  obtain ⟨p, -, admitted, rfl⟩ := q.mem_candidates.mp member
  exact ((q.admits_iff p).mp admitted).2

theorem number_of_mem {a : ScoredPoint} (member : a ∈ q.candidates points) :
    a.score.isNaN = false :=
  (Score.le_iff.mp (q.reaches_of_mem member)).2.1

theorem answer_eq (points : List Point) :
    q.answer points =
      ((q.candidates points).mergeSort fun a b => b.score ≤ a.score).take q.limit := by
  rw [answer, filter_scored, candidates]

/-- What a fallback says of scores that cannot be compared makes no difference. -/
theorem mergeSort_fallback (points : List Point) (fallback : Ordering) :
    ((q.candidates points).mergeSort fun a b =>
        ((Score.compare? b.score a.score).getD fallback).isLE) =
      (q.candidates points).mergeSort fun a b => b.score ≤ a.score := by
  refine mergeSort_congr ?_
  intro a ha b hb
  obtain ⟨o, compared, isLE⟩ :=
    Score.compare?_of_numbers (q.number_of_mem hb) (q.number_of_mem ha)
  rw [compared]
  exact isLE

/-- What is admitted is in the answer, unless what is in the answer scores at least as much. -/
theorem le_of_left_out {ranked : List ScoredPoint} {limit : Nat} {p : Point} {a : ScoredPoint}
    (h : Ranked ScoredPoint.score (q.candidates points) ranked) (member : p ∈ points)
    (admitted : q.admits p = true) (leftOut : p.id ∉ (ranked.take limit).map ScoredPoint.id)
    (answered : a ∈ ranked.take limit) : (q.scoredPoint p).score ≤ a.score := by
  have inside : q.scoredPoint p ∈ ranked :=
    h.same.mem_iff.mpr (q.mem_candidates.mpr ⟨p, member, admitted, rfl⟩)
  rw [← List.take_append_drop limit ranked] at inside
  rcases List.mem_append.mp inside with kept | cut
  · exact absurd (List.mem_map_of_mem kept) leftOut
  · exact h.le_of_cut answered cut

end Query

namespace Memory

/-- Whatever calls have made a store, a question to one of its collections is answered by the
beginning of a list that is determined by what the collection holds: the points that are admitted,
ranked by their scores. Points stand in the order in which their ids came. No point that is left
out scores more than one that is answered, and whatever a comparison makes of scores that cannot be
compared, it is never asked. -/
theorem query_ranked (calls : List Call) {name : String} {c : Collection}
    (there : (Memory.after {} calls).find? name = some c) (q : Query) :
    (c.points.map Point.id).Nodup ∧
    (∀ earlier later c', calls = earlier ++ later →
      (Memory.after {} earlier).find? name = some c' →
        c'.points.map Point.id <+: c.points.map Point.id) ∧
    (∀ p, q.admits p = true ↔
      (∀ field text, (field, text) ∈ q.filter.conditions →
        p.payload.lookup field = some (.str text)) ∧
      q.threshold ≤ q.vector.cosine p.vector) ∧
    ∃ ranked, (Memory.after {} calls).query name q = .ok (ranked.take q.limit) ∧
      Ranked ScoredPoint.score (q.candidates c.points) ranked ∧
      (∀ other, Ranked ScoredPoint.score (q.candidates c.points) other → other = ranked) ∧
      (∀ a ∈ ranked.take q.limit, a.score.isNaN = false ∧ q.threshold ≤ a.score) ∧
      (∀ p ∈ c.points, q.admits p = true → p.id ∉ (ranked.take q.limit).map ScoredPoint.id →
        ∀ a ∈ ranked.take q.limit, ¬a.score < q.vector.cosine p.vector) ∧
      (∀ a ∈ q.candidates c.points, ∀ b ∈ q.candidates c.points,
        (Score.compare? b.score a.score).isSome = true) ∧
      ∀ fallback, ((q.candidates c.points).mergeSort fun a b =>
        ((Score.compare? b.score a.score).getD fallback).isLE) = ranked := by
  have numbers : ∀ a ∈ q.candidates c.points, a.score.isNaN = false :=
    fun a member => q.number_of_mem member
  have holds := Ranked.of_sorted numbers
  have sound := (sound_empty.after calls).each c (find?_spec there).1
  refine ⟨sound.distinct, ?_, q.admits_iff, _, ?_, holds, fun other => holds.unique numbers,
    ?_, ?_, ?_, q.mergeSort_fallback c.points⟩
  · rintro earlier later c' rfl found
    rw [after_append] at there
    obtain ⟨grown, found', ids⟩ := grown_after (Memory.after {} earlier) later name c' found
    obtain rfl := Option.some.inj (there.symm.trans found')
    exact ids.ids
  · have holds : (Memory.after {} calls).holds name = true := by rw [Memory.holds, there]; rfl
    rw [query_of_holds holds, points, there, Option.map_some, Option.getD_some, q.answer_eq]
  · intro a member
    have inside := holds.same.mem_iff.mp (List.mem_of_mem_take member)
    exact ⟨numbers a inside, q.reaches_of_mem inside⟩
  · intro p member admitted leftOut a answered above
    rw [← Query.score_scoredPoint] at above
    exact Score.not_le_of_lt above (q.le_of_left_out holds member admitted leftOut answered)
  · intro a ha b hb
    obtain ⟨o, compared, -⟩ := Score.compare?_of_numbers (numbers b hb) (numbers a ha)
    rw [compared]
    rfl

/-- A question about three points, of which two score the same. -/
theorem query_ranked_tied :
    ∃ ranked, (Memory.after {} [.create ⟨"c", 1⟩, .upsert "c" ⟨"a", [-1], []⟩,
        .upsert "c" ⟨"b", [1], []⟩, .upsert "c" ⟨"d", [1], []⟩]).query "c"
          { vector := [1], threshold := -1 } = .ok (ranked.take 1) ∧
      Ranked ScoredPoint.score (Query.candidates { vector := [1], threshold := -1 }
        [⟨"a", [-1], []⟩, ⟨"b", [1], []⟩, ⟨"d", [1], []⟩]) ranked := by
  have there : ((Memory.after {} [.create ⟨"c", 1⟩, .upsert "c" ⟨"a", [-1], []⟩,
      .upsert "c" ⟨"b", [1], []⟩, .upsert "c" ⟨"d", [1], []⟩]).find? "c") =
        some ⟨⟨"c", 1⟩, [⟨"a", [-1], []⟩, ⟨"b", [1], []⟩, ⟨"d", [1], []⟩]⟩ := rfl
  obtain ⟨-, -, -, ranked, answered, holds, -⟩ :=
    query_ranked _ there { vector := [1], threshold := -1 }
  exact ⟨ranked, answered, holds⟩

end Memory

end AnswerGateway.Store
