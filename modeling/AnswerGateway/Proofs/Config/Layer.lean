import AnswerGateway.Config.Load

/-!
Putting one value into a tree of settings. However the sources are laid over each other, no table of
the tree has two entries of one name. A source that says one value only, in a table for each section
around it, puts it where a path through these sections puts it: a document and a variable that name
the same setting change the same place.
-/

namespace AnswerGateway.Config.Setting

variable {name : String} {value root : Setting} {entries : List (String × Setting)}

/-! Trees without two entries of one name. -/

/-- A tree whose tables have no two entries of one name. What is in a list may be anything, because
no names lead into it. -/
inductive Tidy : Setting → Prop where
  | scalar (origin : Option String) (value : Scalar) : Tidy (.scalar origin value)
  | list (origin : Option String) (items : List Setting) : Tidy (.list origin items)
  | table {origin : Option String} {entries : List (String × Setting)}
      (once : (entries.map Prod.fst).Nodup) (inner : ∀ e ∈ entries, Tidy e.2) :
      Tidy (.table origin entries)

theorem mem_setEntry {e : String × Setting} (member : e ∈ setEntry name value entries) :
    e = (name, value) ∨ e ∈ entries := by
  induction entries with
  | nil => exact .inl (List.mem_singleton.mp member)
  | cons first rest ih =>
      obtain ⟨n, v⟩ := first
      rw [setEntry] at member
      split at member
      · rename_i same
        subst same
        exact (List.mem_cons.mp member).imp_right (List.mem_cons_of_mem _)
      · rcases List.mem_cons.mp member with rfl | behind
        · exact .inr List.mem_cons_self
        · exact (ih behind).imp_right (List.mem_cons_of_mem _)

theorem nodup_setEntry (once : (entries.map Prod.fst).Nodup) :
    ((setEntry name value entries).map Prod.fst).Nodup := by
  induction entries with
  | nil => simp [setEntry]
  | cons first rest ih =>
      obtain ⟨n, v⟩ := first
      rw [List.map_cons, List.nodup_cons] at once
      obtain ⟨new, once⟩ := once
      rw [setEntry]
      split
      · exact List.nodup_cons.mpr ⟨new, once⟩
      · rename_i other
        refine List.nodup_cons.mpr ⟨fun again => ?_, ih once⟩
        obtain ⟨e, member, same⟩ := List.mem_map.mp again
        rcases mem_setEntry member with rfl | behind
        · exact other same.symm
        · exact new (same ▸ List.mem_map_of_mem behind)

theorem mem_of_lookup (found : entries.lookup name = some value) : (name, value) ∈ entries := by
  obtain ⟨before, behind, rfl, -⟩ := List.lookup_eq_some_iff.mp found
  exact List.mem_append_right before List.mem_cons_self

/-- A path has a name to begin with. -/
theorem pathOf_ne_nil (s : String) : pathOf s ≠ [] := by
  cases h : leadingName? s.toList with
  | none => simp [pathOf, h]
  | some found =>
      cases more : stepsFrom? found.2.length found.2 <;> simp [pathOf, h, more]

namespace Tidy

theorem empty : Tidy empty := .table List.nodup_nil fun _ member => nomatch member

theorem once (tidy : Tidy root) : (root.entries.map Prod.fst).Nodup := by
  cases tidy with
  | scalar origin value => exact List.nodup_nil
  | list origin items => exact List.nodup_nil
  | table once inner => exact once

theorem inner (tidy : Tidy root) : ∀ e ∈ root.entries, Tidy e.2 := by
  cases tidy with
  | scalar origin value => exact fun e member => nomatch member
  | list origin items => exact fun e member => nomatch member
  | table once inner => exact inner

theorem child {absent : Setting} (tidy : Tidy root) (fresh : Tidy absent) :
    Tidy ((root.entries.lookup name).getD absent) := by
  cases found : root.entries.lookup name with
  | none => exact fresh
  | some v => exact tidy.inner _ (mem_of_lookup found)

theorem setEntry {origin : Option String} (tidy : Tidy root) (new : Tidy value) :
    Tidy (.table origin (setEntry name value root.entries)) := by
  refine .table (nodup_setEntry tidy.once) fun e member => ?_
  rcases mem_setEntry member with rfl | old
  · exact new
  · exact tidy.inner e old

mutual

/-- Nothing is asked of the value: a table is put in entry by entry. -/
theorem place (value : Setting) (name : String) {root : Setting} (tidy : Tidy root) :
    Tidy (place value name root) := by
  cases value with
  | scalar origin value => exact tidy.setEntry (.scalar origin value)
  | list origin items => exact tidy.setEntry (.list origin items)
  | table origin incoming => exact tidy.setEntry (placeAll incoming (tidy.child .empty))

theorem placeAll (incoming : List (String × Setting)) {root : Setting} (tidy : Tidy root) :
    Tidy (placeAll incoming root) := by
  cases incoming with
  | nil => exact tidy
  | cons first rest => exact placeAll rest (place first.2 first.1 tidy)

end

theorem placeAt {path : List Step} (start : path ≠ []) (tidy : Tidy root) :
    Tidy (Setting.placeAt value path root) := by
  fun_induction Setting.placeAt value path root with
  | case1 root => exact absurd rfl start
  | case2 name root => exact tidy.place value name
  | case3 name root rest more key child ih =>
      exact tidy.setEntry (ih more (tidy.child (.scalar _ _)))
  -- Behind an index there is a list, and then nothing is asked.
  | case4 root i rest n child ih => exact .list _ _

/-- Whatever is laid over it, a tidy tree stays tidy. -/
theorem layer (entries : List (String × Setting)) (tidy : Tidy root) :
    Tidy (layer entries root) := by
  induction entries generalizing root with
  | nil => exact tidy
  | cons e rest ih => exact ih (tidy.placeAt (pathOf_ne_nil e.1))

end Tidy

/-! A value at the end of a path of names. -/

section Named

variable {path : List String}

/-- A tree with a table for every name of the path, each of them in the one before, and the value in
the last. -/
def nest (origin : Option String) (value : Setting) : List String → Setting
  | [] => value
  | name :: path => .table origin [(name, nest origin value path)]

/-- What is put under a name depends on the entries that are there and on nothing else. -/
theorem placeAt_congr {a b : Setting} (same : a.entries = b.entries) :
    placeAt value ((name :: path).map .name) a = placeAt value ((name :: path).map .name) b := by
  have placed : place value name a = place value name b := by
    cases value <;> simp only [place, same]
  cases path with
  | nil => exact placed
  | cons next path => simp only [List.map_cons, placeAt, same]

theorem entries_child (key : String) :
    ((root.entries.lookup key).getD empty).entries =
      ((root.entries.lookup key).getD unset).entries := by
  cases root.entries.lookup key <;> rfl

/-- A tree that says one value puts it at the end of its path. -/
theorem place_nest (origin : Option String) (value : Setting) (path : List String)
    (name : String) (root : Setting) :
    place (nest origin value path) name root = placeAt value ((name :: path).map .name) root := by
  induction path generalizing name root with
  | nil => rfl
  | cons next path ih =>
      have inside : placeAll [(next, nest origin value path)]
            ((root.entries.lookup (Text.small name)).getD empty) =
          placeAt value ((next :: path).map .name)
            ((root.entries.lookup (Text.small name)).getD unset) := by
        rw [placeAll, placeAll, ih]
        exact placeAt_congr (entries_child (Text.small name))
      rw [nest, place, inside]
      rfl

/-- A value without entries replaces the entry under the first name, as far as the path goes. -/
theorem placeAt_scalar (origin : Option String) (v : Scalar) :
    placeAt (.scalar origin v) ((name :: path).map .name) root =
      .table none (setEntry (Text.small name)
        (placeAt (.scalar origin v) (path.map .name)
          ((root.entries.lookup (Text.small name)).getD unset)) root.entries) := by
  cases path <;> rfl

end Named

end AnswerGateway.Config.Setting
