import AnswerGateway.Metrics.PathLabel

/-!
Replacing the UUIDs of a text. A UUID is five groups of hexadecimal digits with hyphens between
them. After the replacement none is left: what is kept between two of them was looked at from every
place, and a placeholder ends in a character that no UUID has, so none reaches across it.
-/

namespace AnswerGateway.Metrics

/-! Parts of a text that a character separates. -/

section Separated

variable {α : Type} {a : α} {part behind : List α}

theorem prefix_of_separated (before : List α) (free : a ∉ part)
    (h : part <+: before ++ a :: behind) : part <+: before := by
  induction before generalizing part with
  | nil =>
      cases part with
      | nil => exact List.nil_prefix
      | cons b part =>
          obtain ⟨rfl, -⟩ := List.cons_prefix_cons.mp h
          exact absurd List.mem_cons_self free
  | cons c before ih =>
      cases part with
      | nil => exact List.nil_prefix
      | cons b part =>
          obtain ⟨rfl, later⟩ := List.cons_prefix_cons.mp h
          have rest := ih (fun member => free (List.mem_cons_of_mem b member)) later
          exact List.cons_prefix_cons.mpr ⟨rfl, rest⟩

/-- A part without the separating character lies on one side of it. -/
theorem infix_of_separated (before : List α) (free : a ∉ part)
    (h : part <:+: before ++ a :: behind) : part <:+: before ∨ part <:+: behind := by
  induction before with
  | nil =>
      rcases List.infix_cons_iff.mp h with first | later
      · exact .inl (prefix_of_separated [] free first).isInfix
      · exact .inr later
  | cons c before ih =>
      rcases List.infix_cons_iff.mp h with first | later
      · exact .inl (prefix_of_separated (c :: before) free first).isInfix
      · exact (ih later).imp_left fun inside => List.infix_cons_iff.mpr (.inr inside)

end Separated

/-- A group of that many lower-case hexadecimal digits. -/
def IsHex (count : Nat) (cs : List Char) : Prop :=
  cs.length = count ∧ ∀ c ∈ cs, isLowerHex c = true

/-- A UUID in lower case. -/
def IsUuid (cs : List Char) : Prop :=
  ∃ a b c d e, IsHex 8 a ∧ IsHex 4 b ∧ IsHex 4 c ∧ IsHex 4 d ∧ IsHex 12 e ∧
    cs = a ++ '-' :: b ++ '-' :: c ++ '-' :: d ++ '-' :: e

section Uuid

variable {u cs rest left : List Char}

theorem IsUuid.length (h : IsUuid u) : u.length = 36 := by
  obtain ⟨a, b, c, d, e, ha, hb, hc, hd, he, rfl⟩ := h
  simp only [List.length_append, List.length_cons, ha.1, hb.1, hc.1, hd.1, he.1]

theorem IsUuid.mem_cases (h : IsUuid u) {x : Char} (member : x ∈ u) :
    x = '-' ∨ isLowerHex x = true := by
  obtain ⟨a, b, c, d, e, ha, hb, hc, hd, he, rfl⟩ := h
  simp only [List.append_assoc, List.cons_append, List.mem_append, List.mem_cons] at member
  rcases member with m | m | m | m | m | m | m | m | m
  · exact .inr (ha.2 x m)
  · exact .inl m
  · exact .inr (hb.2 x m)
  · exact .inl m
  · exact .inr (hc.2 x m)
  · exact .inl m
  · exact .inr (hd.2 x m)
  · exact .inl m
  · exact .inr (he.2 x m)

/-- A character that is neither a hyphen nor a digit is in no UUID. -/
theorem IsUuid.notMem (h : IsUuid u) {x : Char} (noHyphen : x ≠ '-')
    (noHex : isLowerHex x = false) : x ∉ u := by
  intro member
  rcases h.mem_cases member with hyphen | hex
  · exact noHyphen hyphen
  · exact Bool.noConfusion (noHex.symm.trans hex)

theorem IsUuid.hyphen_mem (h : IsUuid u) : '-' ∈ u := by
  obtain ⟨a, b, c, d, e, -, -, -, -, -, rfl⟩ := h
  simp

theorem behindHex_eq_some_iff {n : Nat} :
    behindHex n cs = some left ↔ ∃ group, IsHex n group ∧ cs = group ++ left := by
  induction n generalizing cs with
  | zero =>
      constructor
      · rintro ⟨⟩
        exact ⟨[], ⟨rfl, fun c member => nomatch member⟩, rfl⟩
      · rintro ⟨group, ⟨none, -⟩, rfl⟩
        rw [List.eq_nil_of_length_eq_zero none]
        rfl
  | succ n ih =>
      cases cs with
      | nil =>
          refine ⟨fun h => (nomatch h), ?_⟩
          rintro ⟨_ | _, ⟨short, -⟩, none⟩
          · cases short
          · cases none
      | cons c cs =>
          rw [behindHex]
          constructor
          · intro h
            split at h
            · next hex =>
                obtain ⟨group, ⟨long, all⟩, rfl⟩ := ih.mp h
                refine ⟨c :: group, ⟨congrArg Nat.succ long, ?_⟩, rfl⟩
                exact List.forall_mem_cons.mpr ⟨hex, all⟩
            · cases h
          · rintro ⟨_ | ⟨x, group⟩, ⟨long, all⟩, same⟩
            · cases long
            · obtain ⟨rfl, rfl⟩ := List.cons.inj same
              obtain ⟨hex, all⟩ := List.forall_mem_cons.mp all
              rw [if_pos hex]
              exact ih.mpr ⟨group, ⟨Nat.succ.inj long, all⟩, rfl⟩

theorem behindHyphenHex_eq_some_iff {n : Nat} :
    behindHyphenHex n cs = some left ↔ ∃ group, IsHex n group ∧ cs = '-' :: group ++ left := by
  unfold behindHyphenHex
  split
  · rw [behindHex_eq_some_iff]
    simp
  · next other =>
      refine ⟨fun h => (nomatch h), ?_⟩
      rintro ⟨group, -, rfl⟩
      exact absurd rfl (other (group ++ left))

/-- What is left behind a UUID at the start. -/
theorem behindUuid_eq_some_iff :
    behindUuid cs = some left ↔ ∃ u, IsUuid u ∧ cs = u ++ left := by
  simp only [behindUuid, Option.bind_eq_bind, Option.bind_eq_some_iff, behindHex_eq_some_iff,
    behindHyphenHex_eq_some_iff]
  constructor
  · rintro ⟨_, ⟨a, ha, rfl⟩, _, ⟨b, hb, rfl⟩, _, ⟨c, hc, rfl⟩, _, ⟨d, hd, rfl⟩, e, he, rfl⟩
    exact ⟨_, ⟨a, b, c, d, e, ha, hb, hc, hd, he, rfl⟩, by simp⟩
  · rintro ⟨_, ⟨a, b, c, d, e, ha, hb, hc, hd, he, rfl⟩, rfl⟩
    simp only [List.append_assoc, List.cons_append]
    exact ⟨_, ⟨a, ha, rfl⟩, _, ⟨b, hb, rfl⟩, _, ⟨c, hc, rfl⟩, _, ⟨d, hd, rfl⟩, e, he, rfl⟩

theorem behindUuid_eq_none_iff :
    behindUuid cs = none ↔ ∀ u, IsUuid u → ¬u <+: cs := by
  rw [Option.eq_none_iff_forall_ne_some]
  simp only [ne_eq, behindUuid_eq_some_iff]
  constructor
  · rintro none u uuid ⟨left, rfl⟩
    exact none left ⟨u, uuid, rfl⟩
  · rintro none left ⟨u, uuid, rfl⟩
    exact none u uuid ⟨left, rfl⟩

/-- Either nothing is there, or a UUID stands at the start, or a character that begins none. -/
theorem uuid_induction {P : List Char → Prop} (nil : P [])
    (uuid : ∀ u rest, IsUuid u → P rest → P (u ++ rest))
    (other : ∀ c rest, behindUuid (c :: rest) = none → P rest → P (c :: rest)) (cs : List Char) :
    P cs := by
  induction h : cs.length using Nat.strongRecOn generalizing cs with
  | ind n ih =>
      cases cs with
      | nil => exact nil
      | cons c rest =>
          subst h
          cases behind : behindUuid (c :: rest) with
          | none => exact other c rest behind (ih _ (Nat.lt_succ_self _) rest rfl)
          | some left =>
              obtain ⟨u, hu, same⟩ := behindUuid_eq_some_iff.mp behind
              have shorter : left.length < (c :: rest).length := by
                rw [same, List.length_append, hu.length]
                omega
              rw [same]
              exact uuid u left hu (ih _ shorter left rfl)

end Uuid

/-! The replacement. -/

/-- A text without its UUIDs. -/
abbrev withoutUuids (cs : List Char) : List Char := replaceUuids cs 0

section Replaced

variable {u cs rest : List Char}

theorem replaceUuids_skip (n : Nat) : replaceUuids cs n = withoutUuids (cs.drop n) := by
  induction n generalizing cs with
  | zero => rw [List.drop_zero]
  | succ n ih =>
      cases cs with
      | nil => rfl
      | cons c rest =>
          rw [replaceUuids, List.drop_succ_cons]
          exact ih

theorem withoutUuids_uuid (uuid : IsUuid u) :
    withoutUuids (u ++ rest) = placeholder ++ withoutUuids rest := by
  have behind : behindUuid (u ++ rest) = some rest := behindUuid_eq_some_iff.mpr ⟨u, uuid, rfl⟩
  have long := uuid.length
  cases u with
  | nil => cases long
  | cons c more =>
      have short : more.length = 35 := Nat.succ.inj long
      rw [List.cons_append] at behind ⊢
      rw [withoutUuids, replaceUuids, behind]
      refine congrArg (placeholder ++ ·) ?_
      rw [replaceUuids_skip, ← short, List.drop_left]

theorem withoutUuids_other {c : Char} (plain : behindUuid (c :: rest) = none) :
    withoutUuids (c :: rest) = c :: withoutUuids rest := by
  rw [withoutUuids, replaceUuids, plain]

/-- What the result begins with, up to a placeholder, the text itself begins with. -/
theorem prefix_of_withoutUuids {part : List Char} (free : '\x7b' ∉ part)
    (h : part <+: withoutUuids cs) : part <+: cs := by
  induction cs using uuid_induction generalizing part with
  | nil => exact h
  | uuid u rest hu _ =>
      rw [withoutUuids_uuid hu] at h
      have none := prefix_of_separated [] free h
      rw [List.prefix_nil.mp none]
      exact List.nil_prefix
  | other c rest plain ih =>
      rw [withoutUuids_other plain] at h
      cases part with
      | nil => exact List.nil_prefix
      | cons b part =>
          obtain ⟨rfl, later⟩ := List.cons_prefix_cons.mp h
          have rest := ih (fun member => free (List.mem_cons_of_mem b member)) later
          exact List.cons_prefix_cons.mpr ⟨rfl, rest⟩

/-- No UUID is left. -/
theorem not_infix_withoutUuids (uuid : IsUuid u) : ¬u <:+: withoutUuids cs := by
  induction cs using uuid_induction with
  | nil =>
      intro h
      have long := uuid.length
      rw [List.infix_nil.mp h] at long
      cases long
  | uuid v rest hv ih =>
      intro h
      rw [withoutUuids_uuid hv] at h
      have free := uuid.notMem (x := '\x7d') (by decide) (by decide)
      rcases infix_of_separated ['\x7b', 'i', 'd'] free h with inside | later
      · have long := inside.length_le
        rw [uuid.length] at long
        exact absurd long (by decide)
      · exact ih later
  | other c rest plain ih =>
      intro h
      rw [withoutUuids_other plain] at h
      rcases List.infix_cons_iff.mp h with first | later
      · rw [← withoutUuids_other plain] at first
        have free := uuid.notMem (x := '\x7b') (by decide) (by decide)
        exact behindUuid_eq_none_iff.mp plain u uuid (prefix_of_withoutUuids free first)
      · exact ih later

/-- A text without UUIDs stays as it is. -/
theorem withoutUuids_of_none (none : ∀ u, IsUuid u → ¬u <:+: cs) : withoutUuids cs = cs := by
  induction cs using uuid_induction with
  | nil => rfl
  | uuid u rest hu _ => exact absurd (List.infix_append' [] u rest) (none u hu)
  | other c rest plain ih =>
      rw [withoutUuids_other plain]
      refine congrArg (c :: ·) (ih fun u hu inside => ?_)
      exact none u hu (List.infix_cons_iff.mpr (.inr inside))

/-- What is changed holds a placeholder. -/
theorem withoutUuids_eq_or_mem (cs : List Char) :
    withoutUuids cs = cs ∨ '\x7b' ∈ withoutUuids cs := by
  induction cs using uuid_induction with
  | nil => exact .inl rfl
  | uuid u rest hu _ =>
      rw [withoutUuids_uuid hu]
      exact .inr List.mem_cons_self
  | other c rest plain ih =>
      rw [withoutUuids_other plain]
      exact ih.imp (congrArg (c :: ·)) (List.mem_cons_of_mem c)

theorem mem_withoutUuids {x : Char} (h : x ∈ withoutUuids cs) : x ∈ placeholder ∨ x ∈ cs := by
  induction cs using uuid_induction with
  | nil => exact .inr h
  | uuid u rest hu ih =>
      rw [withoutUuids_uuid hu] at h
      rcases List.mem_append.mp h with inside | later
      · exact .inl inside
      · exact (ih later).imp_right (List.mem_append_right u)
  | other c rest plain ih =>
      rw [withoutUuids_other plain] at h
      rcases List.mem_cons.mp h with rfl | later
      · exact .inr List.mem_cons_self
      · exact (ih later).imp_right (List.mem_cons_of_mem c)

/-- What separates two parts keeps the replacements in them apart. -/
theorem withoutUuids_separated {x : Char} (free : ∀ u, IsUuid u → x ∉ u)
    (before behind : List Char) :
    withoutUuids (before ++ x :: behind) = withoutUuids before ++ x :: withoutUuids behind := by
  have begins (c : Char) (rest : List Char) (plain : behindUuid (c :: rest) = none) :
      behindUuid (c :: (rest ++ x :: behind)) = none := by
    rw [behindUuid_eq_none_iff] at plain ⊢
    intro u hu first
    exact plain u hu (prefix_of_separated (c :: rest) (free u hu) first)
  induction before using uuid_induction with
  | nil =>
      refine withoutUuids_other (behindUuid_eq_none_iff.mpr fun u hu first => ?_)
      have none := prefix_of_separated [] (free u hu) first
      have long := hu.length
      rw [List.prefix_nil.mp none] at long
      cases long
  | uuid u rest hu ih =>
      rw [List.append_assoc, withoutUuids_uuid hu, withoutUuids_uuid hu, ih, List.append_assoc]
  | other c rest plain ih =>
      rw [withoutUuids_other plain, List.cons_append, withoutUuids_other (begins c rest plain), ih,
        List.cons_append]

end Replaced

end AnswerGateway.Metrics
