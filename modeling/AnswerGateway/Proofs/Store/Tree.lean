import AnswerGateway.Proofs.Trace
import AnswerGateway.Store.Tree

/-!
Documents and trees, place by place. A place is a way down into a value, through members of lists
and fields of objects. Making a tree of a document, or a document of a tree, goes along with every
way down, so what stands at a place only depends on what stood there. A value comes back as it was
exactly if each thing in it does by itself. What does not come back are, among documents, the
integers beyond the signed ones, and among trees what documents do not know.
-/

namespace AnswerGateway

section Places

variable {α ω : Type} {inside? : α → ω → Option α} {f : α → α}

/-- What is inside something is smaller, so what follows for each thing from what is inside it
holds of everything. -/
theorem inside_induction {size : α → Nat}
    (smaller : ∀ a way part, inside? a way = some part → size part < size a) {motive : α → Prop}
    (whole : ∀ a, (∀ way part, inside? a way = some part → motive part) → motive a) (a : α) :
    motive a :=
  whole a fun way part _ => inside_induction smaller whole part
termination_by size a
decreasing_by exact smaller a way part ‹_›

/-- A map that keeps places changes nothing exactly if at no place there is something that it
changes of itself. -/
theorem unchanged_iff {size : α → Nat} {own : α → Prop}
    (smaller : ∀ a way part, inside? a way = some part → size part < size a)
    (along : ∀ a way, inside? (f a) way = (inside? a way).map f)
    (changes : ∀ a, (∀ way part, inside? a way = some part → f part = part) → (f a = a ↔ own a))
    (a : α) :
    f a = a ↔ ∀ place part, Trace.run? inside? a place = some part → own part := by
  -- If the whole is unchanged, so is what stands at any place.
  have part_of_whole {a part : α} {place : List ω} (same : f a = a)
      (there : Trace.run? inside? a place = some part) : f part = part := by
    have moved := Trace.run?_map inside? along a place
    rw [same, there, Option.map_some] at moved
    exact (Option.some.inj moved).symm
  constructor
  · intro same place part there
    refine (changes part fun way inner below => ?_).mp (part_of_whole same there)
    have deeper : Trace.run? inside? a (place ++ [way]) = some inner := by
      rw [Trace.run?_append, there, Option.bind_some]
      exact (Trace.run?_cons inside?).mpr ⟨inner, below, rfl⟩
    exact part_of_whole same deeper
  · refine inside_induction smaller (motive := fun a =>
      (∀ place part, Trace.run? inside? a place = some part → own part) → f a = a) ?_ a
    intro a below all
    refine (changes a fun way part there => below way part there ?_).mpr (all [] a rfl)
    intro place inner deeper
    exact all (way :: place) inner ((Trace.run?_cons inside?).mpr ⟨part, there, deeper⟩)

end Places

namespace Json

/-- A step down into a value: to a member of a list, or to a field of an object. -/
inductive Way where
  | item (index : Nat)
  | field (index : Nat) (name : String)
  deriving DecidableEq, Repr

def inside? : Json → Way → Option Json
  | .arr items, .item index => items[index]?
  | .obj fields, .field index name => (fields[index]?.filter (·.1 = name)).map Prod.snd
  | _, _ => none

/-- What stands at a place; none if there is no such place. -/
def at? (j : Json) (place : List Way) : Option Json := Trace.run? inside? j place

end Json

/-- What stands at an index among fields, if the field has that name. -/
theorem mem_of_field {α : Type} {fields : List (String × α)} {index : Nat} {name : String} {a : α}
    (there : (fields[index]?.filter (·.1 = name)).map Prod.snd = some a) :
    (name, a) ∈ fields := by
  obtain ⟨⟨found, value⟩, kept, rfl⟩ := Option.map_eq_some_iff.mp there
  obtain ⟨stands, named⟩ := Option.filter_eq_some_iff.mp kept
  obtain rfl : found = name := by simpa using named
  exact List.mem_of_getElem? stands

theorem field_map {α β : Type} (f : α → β) (fields : List (String × α)) (index : Nat)
    (name : String) :
    ((fields.map fun field => (field.1, f field.2))[index]?.filter (·.1 = name)).map Prod.snd =
      ((fields[index]?.filter (·.1 = name)).map Prod.snd).map f := by
  rw [List.getElem?_map]
  cases fields[index]? with
  | none => rfl
  | some field => by_cases named : field.1 = name <;> simp [Option.filter, named]

/-- A change that leaves each member alone leaves the list alone. -/
theorem items_unchanged {α : Type} {f : α → α} {items : List α}
    (each : ∀ (index : Nat) a, items[index]? = some a → f a = a) : items.map f = items := by
  have same := List.map_congr_left (g := id) fun a (member : a ∈ items) => by
    obtain ⟨index, stands⟩ := List.getElem?_of_mem member
    exact each index a stands
  rwa [List.map_id] at same

theorem fields_unchanged {α : Type} {f : α → α} {fields : List (String × α)}
    (each : ∀ (index : Nat) name a,
      (fields[index]?.filter (·.1 = name)).map Prod.snd = some a → f a = a) :
    fields.map (fun field => (field.1, f field.2)) = fields := by
  refine items_unchanged fun index field stands => ?_
  rw [each index field.1 field.2 (by simp [stands])]

namespace Json

theorem sizeOf_inside (j : Json) (way : Way) (part : Json) (there : j.inside? way = some part) :
    sizeOf part < sizeOf j := by
  unfold inside? at there
  split at there
  · have smaller := List.sizeOf_lt_of_mem (List.mem_of_getElem? there)
    simp only [arr.sizeOf_spec]
    omega
  · have smaller := List.sizeOf_lt_of_mem (mem_of_field there)
    simp only [obj.sizeOf_spec, Prod.mk.sizeOf_spec] at smaller ⊢
    omega
  · cases there

end Json

namespace Store.Tree

theorem ofItems_eq_map (items : List Json) : ofItems items = items.map ofJson := by
  induction items with
  | nil => rfl
  | cons j rest ih => rw [ofItems, ih, List.map_cons]

theorem ofFields_eq_map (fields : List (String × Json)) :
    ofFields fields = fields.map fun field => (field.1, ofJson field.2) := by
  induction fields with
  | nil => rfl
  | cons field rest ih => rw [ofFields, ih, List.map_cons]

theorem toItems_eq_map (items : List Tree) : toItems items = items.map toJson := by
  induction items with
  | nil => rfl
  | cons t rest ih => rw [toItems, ih, List.map_cons]

theorem toFields_eq_map (fields : List (String × Tree)) :
    toFields fields = fields.map fun field => (field.1, toJson field.2) := by
  induction fields with
  | nil => rfl
  | cons field rest ih => rw [toFields, ih, List.map_cons]

def inside? : Tree → Json.Way → Option Tree
  | .list items, .item index => items[index]?
  | .record fields, .field index name => (fields[index]?.filter (·.1 = name)).map Prod.snd
  | _, _ => none

/-- What stands at a place; none if there is no such place. -/
def at? (t : Tree) (place : List Json.Way) : Option Tree := Trace.run? inside? t place

theorem sizeOf_inside (t : Tree) (way : Json.Way) (part : Tree)
    (there : t.inside? way = some part) : sizeOf part < sizeOf t := by
  unfold inside? at there
  split at there
  · have smaller := List.sizeOf_lt_of_mem (List.mem_of_getElem? there)
    simp only [list.sizeOf_spec]
    omega
  · have smaller := List.sizeOf_lt_of_mem (mem_of_field there)
    simp only [record.sizeOf_spec, Prod.mk.sizeOf_spec] at smaller ⊢
    omega
  · cases there

/-! What becomes of the parts of a value. -/

theorem inside?_ofJson (j : Json) (way : Json.Way) :
    (ofJson j).inside? way = (j.inside? way).map ofJson := by
  cases j with
  | arr items =>
      cases way with
      | item index => simp [ofJson, inside?, Json.inside?, ofItems_eq_map]
      | field index name => rfl
  | obj fields =>
      cases way with
      | item index => rfl
      | field index name => simp only [ofJson, inside?, Json.inside?, ofFields_eq_map, field_map]
  | int i =>
      unfold ofJson ofInteger
      split <;> rfl
  | null | bool b | double x | str s => rfl

theorem inside?_toJson (t : Tree) (way : Json.Way) :
    t.toJson.inside? way = (t.inside? way).map toJson := by
  cases t with
  | list items =>
      cases way with
      | item index => simp [toJson, inside?, Json.inside?, toItems_eq_map]
      | field index name => rfl
  | record fields =>
      cases way with
      | item index => rfl
      | field index name => simp only [toJson, inside?, Json.inside?, toFields_eq_map, field_map]
  | double x =>
      unfold toJson Json.ofFloat
      split <;> rfl
  | unset | null code | bool b | int i | text s => rfl

/-! What comes back of a value, if everything inside it does. -/

theorem toJson_ofInteger_iff (i : Integer) :
    (ofInteger i).toJson = .int i ↔ i.val ≤ Int64.maxValue.toInt := by
  have bound : Int64.maxValue.toInt = 0x8000000000000000 - 1 := by decide
  rw [bound]
  unfold ofInteger Integer.isSigned
  by_cases signed : i.val < 0x8000000000000000
  · have lower := i.lower
    have value : (Int64.ofInt i.val).toInt = i.val := Int64.toInt_ofInt_of_le lower signed
    rw [if_pos (decide_eq_true signed)]
    simp only [toJson, Json.ofInt64, Integer.ofInt64, value, true_iff]
    omega
  · rw [if_neg (by simpa using signed)]
    have double : ∀ x, Json.ofFloat x ≠ .int i := by
      intro x
      unfold Json.ofFloat
      split <;> exact fun same => nomatch same
    simp only [toJson, double, false_iff]
    omega

theorem toJson_ofJson_own (j : Json)
    (inner : ∀ way part, j.inside? way = some part → (ofJson part).toJson = part) :
    (ofJson j).toJson = j ↔ ∀ i, j = .int i → i.val ≤ Int64.maxValue.toInt := by
  cases j with
  | int i =>
      rw [ofJson, toJson_ofInteger_iff]
      constructor
      · rintro small other same
        cases same
        exact small
      · exact fun small => small i rfl
  | double x => simp [ofJson, toJson, Json.ofFloat, Finite.ofFloat?, x.isFinite]
  | arr items =>
      have same := items_unchanged fun index => inner (.item index)
      simpa [ofJson, toJson, ofItems_eq_map, toItems_eq_map, Function.comp_def] using same
  | obj fields =>
      have same := fields_unchanged fun index name => inner (.field index name)
      simpa [ofJson, toJson, ofFields_eq_map, toFields_eq_map, Function.comp_def] using same
  | null | bool b | str s => simp [ofJson, toJson]

/-- Whether documents know a value, as far as it does not depend on what is inside it. -/
def isKnown : Tree → Bool
  | .unset => false
  | .null code => code = 0
  | .double x => x.isFinite
  | _ => true

theorem ofJson_toJson_own (t : Tree)
    (inner : ∀ way part, t.inside? way = some part → ofJson part.toJson = part) :
    ofJson t.toJson = t ↔ t.isKnown = true := by
  cases t with
  | int i =>
      have signed : (Integer.ofInt64 i).isSigned = true := decide_eq_true i.toInt_lt
      rw [toJson, Json.ofInt64, ofJson, ofInteger, if_pos signed]
      simp [Integer.ofInt64, isKnown]
  | double x =>
      by_cases finite : x.isFinite = true
      · simp [toJson, Json.ofFloat, Finite.ofFloat?, finite, ofJson, isKnown]
      · simp [toJson, Json.ofFloat, Finite.ofFloat?, finite, ofJson, isKnown]
  | null code => simp [toJson, ofJson, isKnown, eq_comm]
  | list items =>
      have same := items_unchanged fun index => inner (.item index)
      simpa [toJson, ofJson, ofItems_eq_map, toItems_eq_map, isKnown, Function.comp_def] using same
  | record fields =>
      have same := fields_unchanged fun index name => inner (.field index name)
      simpa [toJson, ofJson, ofFields_eq_map, toFields_eq_map, isKnown, Function.comp_def]
        using same
  | unset | bool b | text s => simp [toJson, ofJson, isKnown]

/-- A document comes back from a tree as it was exactly if no integer in it is beyond the signed
ones; and even if one is, everything without such an integer comes back at the same place. A tree
comes back from a document as it was exactly if documents know everything in it. -/
theorem comes_back_iff :
    (∀ v : Json, (ofJson v).toJson = v ↔
      ∀ place i, v.at? place = some (.int i) → i.val ≤ Int64.maxValue.toInt) ∧
    (∀ (v : Json) place part, v.at? place = some part →
      (∀ below i, part.at? below = some (.int i) → i.val ≤ Int64.maxValue.toInt) →
      (ofJson v).toJson.at? place = some part) ∧
    ∀ t : Tree, ofJson t.toJson = t ↔
      ∀ place part, t.at? place = some part → part.isKnown = true := by
  have along (v : Json) (way : Json.Way) :
      (ofJson v).toJson.inside? way = (v.inside? way).map fun part => (ofJson part).toJson := by
    rw [inside?_toJson, inside?_ofJson, Option.map_map]
    rfl
  have documents (v : Json) : (ofJson v).toJson = v ↔
      ∀ place i, v.at? place = some (.int i) → i.val ≤ Int64.maxValue.toInt := by
    rw [unchanged_iff Json.sizeOf_inside along toJson_ofJson_own v]
    constructor
    · exact fun all place i there => all place _ there i rfl
    · rintro all place - there i rfl
      exact all place i there
  refine ⟨documents, ?_, ?_⟩
  · intro v place part there small
    have moved := Trace.run?_map Json.inside? along v place
    rw [← Json.at?, ← Json.at?, there, Option.map_some, (documents part).mpr small] at moved
    exact moved
  · refine unchanged_iff sizeOf_inside ?_ ofJson_toJson_own
    intro t way
    rw [inside?_ofJson, inside?_toJson, Option.map_map]
    rfl

/-- A document with an integer that is too large in one field does not come back as it was, but its
other field does. -/
theorem comes_back_beside :
    let large : Integer := ⟨0x8000000000000000, by decide, by decide⟩
    let v : Json := .obj [("large", .int large), ("rest", .arr [.null, Json.ofInt64 (-1)])]
    (ofJson v).toJson ≠ v ∧
      (ofJson v).toJson.at? [.field 1 "rest"] = some (.arr [.null, Json.ofInt64 (-1)]) := by
  intro large v
  obtain ⟨documents, parts, -⟩ := comes_back_iff
  constructor
  · intro same
    exact absurd ((documents v).mp same [.field 0 "large"] large rfl) (by decide)
  · refine parts v _ _ rfl ?_
    exact (documents (.arr [.null, Json.ofInt64 (-1)])).mp rfl

end Store.Tree

end AnswerGateway
