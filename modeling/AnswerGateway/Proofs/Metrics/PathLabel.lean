import AnswerGateway.Proofs.Metrics.Uuid
import Mathlib.Data.List.Chain
import Mathlib.Data.List.TakeWhile

/-!
What is left to tell apart in a path's label. Segment by segment, the label is the path with its
UUIDs replaced and, of the segments behind the first, every number replaced that does not stand
right behind a replaced one: a match takes along the slash that the next segment would need. So no
UUID is left, but of two numbers in a row the second one is. A label without such a number, and only
such a label, stays as it is when it is made a label again.
-/

namespace AnswerGateway.Metrics

/-! The segments of a path. -/

/-- What stands between the slashes of a path. -/
abbrev segments (path : List Char) : List (List Char) := path.splitOn '/'

/-- A path of segments, with a slash in front of every one but the first. -/
def joined (first : List Char) (rest : List (List Char)) : List Char :=
  first ++ rest.flatMap ('/' :: ·)

section Segments

variable {path first u : List Char} {rest : List (List Char)}

theorem joined_cons (second : List Char) :
    joined first (second :: rest) = first ++ '/' :: joined second rest := rfl

theorem segments_joined (noSlash : ∀ s ∈ first :: rest, '/' ∉ s) :
    segments (joined first rest) = first :: rest := by
  induction rest generalizing first with
  | nil =>
      rw [joined, List.flatMap_nil, List.append_nil]
      exact List.splitOn_eq_singleton (noSlash first List.mem_cons_self)
  | cons second rest ih =>
      have later := ih fun s member => noSlash s (List.mem_cons_of_mem first member)
      rw [joined_cons, segments, List.splitOn_append_cons_self,
        List.splitOn_eq_singleton (noSlash first List.mem_cons_self)]
      exact congrArg (first :: ·) later

/-- Every path is its segments, joined. -/
theorem exists_joined (path : List Char) :
    ∃ first rest, path = joined first rest ∧ ∀ s ∈ first :: rest, '/' ∉ s := by
  induction path with
  | nil => exact ⟨[], [], rfl, by simp⟩
  | cons c path ih =>
      obtain ⟨first, rest, rfl, noSlash⟩ := ih
      by_cases slash : c = '/'
      · subst slash
        exact ⟨[], first :: rest, rfl, List.forall_mem_cons.mpr ⟨List.not_mem_nil, noSlash⟩⟩
      · obtain ⟨noSlashFirst, noSlashRest⟩ := List.forall_mem_cons.mp noSlash
        refine ⟨c :: first, rest, rfl, List.forall_mem_cons.mpr ⟨?_, noSlashRest⟩⟩
        exact List.not_mem_cons_of_ne_of_not_mem (Ne.symm slash) noSlashFirst

theorem eq_joined_of_segments (split : segments path = first :: rest) :
    path = joined first rest ∧ ∀ s ∈ first :: rest, '/' ∉ s := by
  obtain ⟨first', rest', rfl, noSlash⟩ := exists_joined path
  rw [segments_joined noSlash] at split
  obtain ⟨rfl, rfl⟩ := List.cons.inj split
  exact ⟨rfl, noSlash⟩

/-- A part without slashes lies within a segment. -/
theorem infix_of_joined (noSlash : '/' ∉ u) (h : u <:+: joined first rest) :
    ∃ s ∈ first :: rest, u <:+: s := by
  induction rest generalizing first with
  | nil =>
      rw [joined, List.flatMap_nil, List.append_nil] at h
      exact ⟨first, List.mem_cons_self, h⟩
  | cons second rest ih =>
      rw [joined_cons] at h
      rcases infix_of_separated first noSlash h with inside | later
      · exact ⟨first, List.mem_cons_self, inside⟩
      · obtain ⟨s, member, inside⟩ := ih later
        exact ⟨s, List.mem_cons_of_mem first member, inside⟩

end Segments

/-! Numbers among the segments. -/

/-- A segment of decimal digits and nothing else. -/
def IsNumber (s : List Char) : Prop := s ≠ [] ∧ ∀ c ∈ s, Text.isDecimalDigit c = true

instance : DecidablePred IsNumber := fun s =>
  decidable_of_iff (s ≠ [] ∧ s.all Text.isDecimalDigit = true) (by rw [IsNumber, List.all_eq_true])

/-- Two segments that are not both numbers. -/
def Apart (s next : List Char) : Prop := ¬(IsNumber s ∧ IsNumber next)

instance : DecidableRel Apart := fun s next =>
  inferInstanceAs (Decidable ¬(IsNumber s ∧ IsNumber next))

theorem not_isNumber_of_mem {s : List Char} {c : Char} (member : c ∈ s)
    (noDigit : Text.isDecimalDigit c = false) : ¬IsNumber s :=
  fun number => Bool.noConfusion (noDigit.symm.trans (number.2 c member))

theorem not_isNumber_placeholder : ¬IsNumber placeholder :=
  not_isNumber_of_mem (c := '\x7b') (by decide) (by decide)

/-- The segments behind the first with the numbers replaced that are found. The segment behind such
a number stays, whatever it is. -/
def marked : List (List Char) → List (List Char)
  | [] => []
  | [s] => [if IsNumber s then placeholder else s]
  | s :: next :: rest =>
    if IsNumber s then placeholder :: next :: marked rest else s :: marked (next :: rest)

section Marked

variable {segs : List (List Char)}

theorem mem_marked {s : List Char} (member : s ∈ marked segs) : s = placeholder ∨ s ∈ segs := by
  fun_induction marked segs with
  | case1 => exact .inr member
  | case2 t =>
      obtain rfl := List.mem_singleton.mp member
      split
      · exact .inl rfl
      · exact .inr List.mem_cons_self
  | case3 t next rest number ih =>
      rcases List.mem_cons.mp member with first | member
      · exact .inl first
      · rcases List.mem_cons.mp member with second | later
        · exact .inr (second ▸ List.mem_cons_of_mem t List.mem_cons_self)
        · exact (ih later).imp_right fun h => List.mem_cons_of_mem t (List.mem_cons_of_mem next h)
  | case4 t next rest number ih =>
      rcases List.mem_cons.mp member with rfl | later
      · exact .inr List.mem_cons_self
      · exact (ih later).imp_right (List.mem_cons_of_mem t)

/-- No number is left exactly if no two numbers stand next to each other. -/
theorem not_isNumber_marked_iff :
    (∀ s ∈ marked segs, ¬IsNumber s) ↔ segs.IsChain Apart := by
  fun_induction marked segs with
  | case1 => simp
  | case2 s =>
      simp only [List.mem_singleton, forall_eq, List.isChain_singleton, iff_true]
      split
      · exact not_isNumber_placeholder
      · assumption
  | case3 s next rest number ih =>
      simp only [List.forall_mem_cons, ih, not_isNumber_placeholder, not_false_eq_true, true_and,
        List.isChain_cons_cons, Apart, number]
      refine and_congr_right fun other => ?_
      cases rest with
      | nil => simp
      | cons third rest => simp [List.isChain_cons_cons, Apart, other]
  | case4 s next rest number ih =>
      simp only [List.forall_mem_cons, ih, number, not_false_eq_true, true_and,
        List.isChain_cons_cons, Apart, false_and]

theorem marked_of_none (none : ∀ s ∈ segs, ¬IsNumber s) : marked segs = segs := by
  fun_induction marked segs with
  | case1 => rfl
  | case2 s => rw [if_neg (none s List.mem_cons_self)]
  | case3 s next rest number ih => exact absurd number (none s List.mem_cons_self)
  | case4 s next rest number ih =>
      exact congrArg (s :: ·) (ih fun t member => none t (List.mem_cons_of_mem s member))

/-- A replaced number can be seen before the end of what was there: a placeholder begins with no
digit. -/
theorem not_isNumber_of_prefix
    (same : segs.flatMap ('/' :: ·) <+: (marked segs).flatMap ('/' :: ·)) :
    ∀ s ∈ segs, ¬IsNumber s := by
  have starts {s more others : List Char} (number : IsNumber s) :
      ¬s ++ more <+: placeholder ++ others := by
    obtain ⟨nonempty, digits⟩ := number
    cases s with
    | nil => exact absurd rfl nonempty
    | cons c s =>
        intro same
        obtain ⟨rfl, -⟩ := List.cons_prefix_cons.mp same
        exact absurd (digits '\x7b' List.mem_cons_self) (by decide)
  fun_induction marked segs with
  | case1 => simp
  | case2 s =>
      have behind : s ++ [] <+: (if IsNumber s then placeholder else s) ++ [] :=
        (List.cons_prefix_cons.mp same).2
      intro t member
      obtain rfl := List.mem_singleton.mp member
      intro number
      rw [if_pos number] at behind
      exact starts number behind
  | case3 s next rest number ih =>
      have behind : s ++ (next :: rest).flatMap ('/' :: ·) <+:
          placeholder ++ (next :: marked rest).flatMap ('/' :: ·) :=
        (List.cons_prefix_cons.mp same).2
      exact absurd behind (starts number)
  | case4 s next rest number ih =>
      have behind : s ++ (next :: rest).flatMap ('/' :: ·) <+:
          s ++ (marked (next :: rest)).flatMap ('/' :: ·) :=
        (List.cons_prefix_cons.mp same).2
      exact List.forall_mem_cons.mpr ⟨number, ih ((List.prefix_append_right_inj s).mp behind)⟩

end Marked

/-! The replacement of numbers, segment by segment. -/

section Numbers

variable {s more : List Char} {rest : List (List Char)}

theorem replaceNumbers_append (noSlash : '/' ∉ s) (more : List Char) :
    replaceNumbers (s ++ more) 0 = s ++ replaceNumbers more 0 := by
  induction s with
  | nil => rfl
  | cons c s ih =>
      have other := List.ne_of_not_mem_cons noSlash
      rw [List.cons_append, replaceNumbers, if_neg (Ne.symm other),
        ih (List.not_mem_of_not_mem_cons noSlash), List.cons_append]

theorem replaceNumbers_found {cs : List Char} {n : Nat} (found : digitSegment cs = some n) :
    replaceNumbers ('/' :: cs) 0 = '/' :: placeholder ++ replaceNumbers cs n := by
  rw [replaceNumbers, if_pos rfl, found]

theorem replaceNumbers_other {cs : List Char} (none : digitSegment cs = none) :
    replaceNumbers ('/' :: cs) 0 = '/' :: replaceNumbers cs 0 := by
  rw [replaceNumbers, if_pos rfl, none]

/-- The slash behind a number is kept. -/
theorem replaceNumbers_behind (s more : List Char) :
    replaceNumbers (s ++ '/' :: more) (s.length + 1) = '/' :: replaceNumbers more 0 := by
  induction s with
  | nil => rfl
  | cons c s ih =>
      rw [List.cons_append, List.length_cons, replaceNumbers, if_neg (fun h => nomatch h.1), ih]

theorem replaceNumbers_all (noSlash : '/' ∉ s) : replaceNumbers s s.length = [] := by
  induction s with
  | nil => rfl
  | cons c s ih =>
      have other := List.ne_of_not_mem_cons noSlash
      rw [List.length_cons, replaceNumbers, if_neg fun h => other h.2.symm,
        ih (List.not_mem_of_not_mem_cons noSlash)]

theorem takeWhile_digits (more : List Char) (digits : ∀ c ∈ s, Text.isDecimalDigit c = true)
    (ends : ∀ c ∈ more.head?, Text.isDecimalDigit c = false) :
    (s ++ more).takeWhile Text.isDecimalDigit = s := by
  have behind : more.takeWhile Text.isDecimalDigit = [] := by
    cases more with
    | nil => rfl
    | cons c more => rw [List.takeWhile_cons_of_neg (by simp [ends c rfl])]
  rw [List.takeWhile_append_of_pos digits, behind, List.append_nil]

theorem digitSegment_last (number : IsNumber s) : digitSegment s = some s.length := by
  have all := takeWhile_digits [] number.2 (by simp)
  rw [List.append_nil] at all
  simp only [digitSegment, all, List.isEmpty_iff, number.1, if_false, List.drop_length]

theorem digitSegment_inner (number : IsNumber s) (more : List Char) :
    digitSegment (s ++ '/' :: more) = some (s.length + 1) := by
  have slash : ∀ c ∈ ('/' :: more).head?, Text.isDecimalDigit c = false := by
    rintro c ⟨⟩
    decide
  simp only [digitSegment, takeWhile_digits _ number.2 slash, List.isEmpty_iff, number.1, if_false,
    List.drop_left]

theorem digitSegment_other (more : List Char) (other : ¬IsNumber s) (noSlash : '/' ∉ s)
    (ends : ∀ c ∈ more.head?, c = '/') : digitSegment (s ++ more) = none := by
  have split := (List.takeWhile_append_dropWhile (p := Text.isDecimalDigit) (l := s)).symm
  have digits : ∀ c ∈ s.takeWhile Text.isDecimalDigit, Text.isDecimalDigit c = true :=
    fun c => List.mem_takeWhile_imp
  have stops := List.head?_dropWhile_not Text.isDecimalDigit s
  -- Its digits end with it, and then there are none, or at a character of its own.
  cases behind : s.dropWhile Text.isDecimalDigit with
  | nil =>
      have empty : s = [] := by
        by_contra nonempty
        exact other ⟨nonempty, List.dropWhile_eq_nil_iff.mp behind⟩
      have slash : ∀ c ∈ more.head?, Text.isDecimalDigit c = false := by
        intro c head
        rw [ends c head]
        decide
      have none := takeWhile_digits (s := []) more (by simp) slash
      rw [List.nil_append] at none
      rw [empty, List.nil_append, digitSegment, none]
      rfl
  | cons c tail =>
      rw [behind] at split stops
      have noSlash : c ≠ '/' := by
        rintro rfl
        exact noSlash (split ▸ List.mem_append_right _ List.mem_cons_self)
      have noDigit : ∀ d ∈ (c :: tail ++ more).head?, Text.isDecimalDigit d = false := by
        rintro d ⟨⟩
        exact stops
      rw [split, List.append_assoc, digitSegment, takeWhile_digits _ digits noDigit]
      simp [noSlash]

/-- The replacement goes from segment to segment. -/
theorem replaceNumbers_segments (noSlash : ∀ s ∈ rest, '/' ∉ s) :
    replaceNumbers (rest.flatMap ('/' :: ·)) 0 = (marked rest).flatMap ('/' :: ·) := by
  fun_induction marked rest with
  | case1 => rfl
  | case2 s =>
      have clean := noSlash s List.mem_cons_self
      rw [List.flatMap_singleton, List.flatMap_singleton]
      by_cases number : IsNumber s
      · rw [replaceNumbers_found (digitSegment_last number), if_pos number,
          replaceNumbers_all clean, List.append_nil]
      · have none := digitSegment_other [] number clean (by simp)
        have kept := replaceNumbers_append clean []
        rw [List.append_nil] at none kept
        rw [replaceNumbers_other none, if_neg number, kept, replaceNumbers, List.append_nil]
  | case3 s next rest number ih =>
      obtain ⟨-, noSlash⟩ := List.forall_mem_cons.mp noSlash
      obtain ⟨clean, noSlash⟩ := List.forall_mem_cons.mp noSlash
      have path : (s :: next :: rest).flatMap ('/' :: ·) =
          '/' :: (s ++ '/' :: (next ++ rest.flatMap ('/' :: ·))) := rfl
      rw [path, replaceNumbers_found (digitSegment_inner number _), replaceNumbers_behind,
        replaceNumbers_append clean, ih noSlash]
      rfl
  | case4 s next rest number ih =>
      obtain ⟨clean, noSlash⟩ := List.forall_mem_cons.mp noSlash
      have path : (s :: next :: rest).flatMap ('/' :: ·) =
          '/' :: (s ++ (next :: rest).flatMap ('/' :: ·)) := rfl
      have none : digitSegment (s ++ (next :: rest).flatMap ('/' :: ·)) = none :=
        digitSegment_other _ number clean (by rintro c ⟨⟩; rfl)
      rw [path, replaceNumbers_other none, replaceNumbers_append clean, ih noSlash]
      rfl

theorem replaceNumbers_joined {first : List Char} (noSlash : ∀ s ∈ first :: rest, '/' ∉ s) :
    replaceNumbers (joined first rest) 0 = joined first (marked rest) := by
  obtain ⟨clean, noSlash⟩ := List.forall_mem_cons.mp noSlash
  rw [joined, replaceNumbers_append clean, replaceNumbers_segments noSlash, joined]

end Numbers

/-! The replacement of UUIDs, segment by segment. -/

section Uuids

variable {s first u : List Char} {rest : List (List Char)}

theorem IsUuid.noSlash (uuid : IsUuid u) : '/' ∉ u := uuid.notMem (by decide) (by decide)

theorem withoutUuids_joined :
    withoutUuids (joined first rest) = joined (withoutUuids first) (rest.map withoutUuids) := by
  induction rest generalizing first with
  | nil => simp [joined]
  | cons second rest ih =>
      rw [joined_cons, withoutUuids_separated (fun u uuid => uuid.noSlash), ih, List.map_cons,
        joined_cons]

theorem noSlash_withoutUuids (noSlash : '/' ∉ s) : '/' ∉ withoutUuids s := by
  intro member
  rcases mem_withoutUuids member with inside | own
  · exact absurd inside (by decide)
  · exact noSlash own

/-- Replacing UUIDs makes no number and removes none. -/
theorem isNumber_withoutUuids : IsNumber (withoutUuids s) ↔ IsNumber s := by
  rcases withoutUuids_eq_or_mem s with same | brace
  · rw [same]
  · refine iff_of_false (not_isNumber_of_mem brace (by decide)) fun number => ?_
    have kept : withoutUuids s = s := by
      refine withoutUuids_of_none fun u uuid inside => ?_
      exact not_isNumber_of_mem (inside.subset uuid.hyphen_mem) (by decide) number
    rw [kept] at brace
    exact not_isNumber_of_mem brace (by decide) number

end Uuids

/-! The label. -/

section Label

variable {path : String} {first : List Char} {rest : List (List Char)}

/-- The pattern of a path, segment by segment. -/
theorem pathPattern_eq (split : segments path.toList = first :: rest) :
    pathPattern path = joined (withoutUuids first) (marked (rest.map withoutUuids)) := by
  obtain ⟨whole, noSlash⟩ := eq_joined_of_segments split
  have replaced : pathPattern path = replaceNumbers (withoutUuids (joined first rest)) 0 := by
    rw [pathPattern, whole]
  rw [replaced, withoutUuids_joined]
  apply replaceNumbers_joined
  intro s member
  rw [← List.map_cons] at member
  obtain ⟨t, own, rfl⟩ := List.mem_map.mp member
  exact noSlash_withoutUuids (noSlash t own)

theorem segments_pathPattern (split : segments path.toList = first :: rest) :
    segments (pathPattern path) = withoutUuids first :: marked (rest.map withoutUuids) := by
  obtain ⟨-, noSlash⟩ := eq_joined_of_segments split
  obtain ⟨clean, noSlash⟩ := List.forall_mem_cons.mp noSlash
  rw [pathPattern_eq split]
  refine segments_joined (List.forall_mem_cons.mpr ⟨noSlash_withoutUuids clean, ?_⟩)
  intro s member
  rcases mem_marked member with rfl | own
  · decide
  · obtain ⟨t, behind, rfl⟩ := List.mem_map.mp own
    exact noSlash_withoutUuids (noSlash t behind)

theorem not_infix_pathPattern {u : List Char} (uuid : IsUuid u) (path : String) :
    ¬u <:+: pathPattern path := by
  intro inside
  obtain ⟨first, rest, split⟩ := List.exists_cons_of_ne_nil (List.splitOn_ne_nil '/' path.toList)
  rw [pathPattern_eq split] at inside
  obtain ⟨s, member, inside⟩ := infix_of_joined uuid.noSlash inside
  rcases List.mem_cons.mp member with rfl | behind
  · exact not_infix_withoutUuids uuid inside
  · rcases mem_marked behind with rfl | own
    · have long := inside.length_le
      rw [uuid.length] at long
      exact absurd long (by decide)
    · obtain ⟨t, -, rfl⟩ := List.mem_map.mp own
      exact not_infix_withoutUuids uuid inside

theorem isChain_withoutUuids : (rest.map withoutUuids).IsChain Apart ↔ rest.IsChain Apart := by
  have apart (s next : List Char) :
      Apart (withoutUuids s) (withoutUuids next) ↔ Apart s next := by
    rw [Apart, Apart, isNumber_withoutUuids, isNumber_withoutUuids]
  rw [List.isChain_map]
  simp only [apart]

/-- In the pattern of a pattern only numbers are replaced, for nothing else is left to replace. -/
theorem pathPattern_pattern (split : segments path.toList = first :: rest) :
    pathPattern (String.ofList (pathPattern path)) =
      joined (withoutUuids first) (marked (marked (rest.map withoutUuids))) := by
  obtain ⟨whole, noSlash⟩ := eq_joined_of_segments (segments_pathPattern split)
  have kept : withoutUuids (pathPattern path) = pathPattern path :=
    withoutUuids_of_none fun u uuid => not_infix_pathPattern uuid path
  have again : pathPattern (String.ofList (pathPattern path)) =
      replaceNumbers (withoutUuids (pathPattern path)) 0 := by
    rw [pathPattern, String.toList_ofList]
  rw [again, kept, whole, replaceNumbers_joined noSlash]

/-- A pattern that is all of its label is its own pattern exactly if no number is left behind its
first segment. -/
theorem take_pattern_iff (split : segments path.toList = first :: rest)
    (whole : (pathPattern path).length ≤ labelLimit) :
    (pathPattern (String.ofList (pathPattern path))).take labelLimit = pathPattern path ↔
      rest.IsChain Apart := by
  have pattern := pathPattern_eq split
  have again := pathPattern_pattern split
  rw [← isChain_withoutUuids, ← not_isNumber_marked_iff]
  constructor
  · intro same
    have begins := List.take_prefix labelLimit (pathPattern (String.ofList (pathPattern path)))
    rw [same, again, pattern, joined, joined, List.prefix_append_right_inj] at begins
    exact not_isNumber_of_prefix begins
  · intro none
    rw [again, marked_of_none none, ← pattern, List.take_of_length_le whole]

/-- Whatever the path, no UUID is left in its label. A label that is not cut is free of numbers
exactly if the path does not begin with one and no two of the segments behind the first are numbers
next to each other; and it stays the same when it is made a label again exactly under the latter. -/
theorem pathLabel_clean_iff (split : segments path.toList = first :: rest) :
    (∀ u, IsUuid u → ¬u <:+: (pathLabel path).toList) ∧
    ((pathPattern path).length ≤ labelLimit →
      ((∀ s ∈ segments (pathLabel path).toList, ¬IsNumber s) ↔
        ¬IsNumber first ∧ rest.IsChain Apart) ∧
      (pathLabel (pathLabel path) = pathLabel path ↔ rest.IsChain Apart)) := by
  have shown : (pathLabel path).toList = (pathPattern path).take labelLimit :=
    String.toList_ofList
  refine ⟨fun u uuid inside => ?_, fun whole => ?_⟩
  · rw [shown] at inside
    have begins := (List.take_prefix labelLimit (pathPattern path)).isInfix
    exact not_infix_pathPattern uuid path (inside.trans begins)
  · have uncut : pathLabel path = String.ofList (pathPattern path) := by
      rw [pathLabel, List.take_of_length_le whole]
    constructor
    · rw [uncut, String.toList_ofList, segments_pathPattern split, List.forall_mem_cons,
        not_isNumber_marked_iff, isChain_withoutUuids, isNumber_withoutUuids]
    · rw [← take_pattern_iff split whole, uncut, pathLabel, String.ofList_inj]

/-- A path with a number and a UUID among its segments. -/
theorem pathLabel_clean_orders :
    let path := "/users/123/orders/550e8400-e29b-41d4-a716-446655440000"
    let rest := ["users".toList, "123".toList, "orders".toList,
      "550e8400-e29b-41d4-a716-446655440000".toList]
    (segments path.toList = [] :: rest ∧ (pathPattern path).length ≤ labelLimit) ∧
    (∀ u, IsUuid u → ¬u <:+: (pathLabel path).toList) ∧
    (∀ s ∈ segments (pathLabel path).toList, ¬IsNumber s) ∧
    pathLabel (pathLabel path) = pathLabel path := by
  intro path rest
  have split : segments path.toList = [] :: rest := by decide
  have whole : (pathPattern path).length ≤ labelLimit := by decide
  obtain ⟨noUuid, uncut⟩ := pathLabel_clean_iff split
  obtain ⟨noNumber, same⟩ := uncut whole
  exact ⟨⟨split, whole⟩, noUuid, noNumber.mpr (by decide), same.mpr (by decide)⟩

/-- Of two numbers next to each other the second one is left, until the label is made a label
again. -/
theorem pathLabel_neighbours :
    pathLabel "/1/2" = "/\x7bid\x7d/2" ∧
    (∃ s ∈ segments (pathLabel "/1/2").toList, IsNumber s) ∧
    pathLabel (pathLabel "/1/2") ≠ pathLabel "/1/2" := by
  decide

end Label

end AnswerGateway.Metrics
