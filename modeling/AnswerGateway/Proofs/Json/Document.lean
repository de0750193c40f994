import AnswerGateway.Proofs.Json.Value

/-!
Documents of texts and flags. A reader that takes whatever value comes reads such a document as it
was written, field by field; its fields may then be put in order.
-/

namespace AnswerGateway.Json

open Cursor Scan JsonText

variable {nested : Option (Scan Json)} {after : List Char}

theorem reads_readOne_quote (text : String) : Reads (readOne nested) (quote text) (.str text) where
  opens := opens_quote text
  takes after closes := by
    rw [quote_append]
    exact (takes_valueAhead _ rfl).bind
      ((takes_advance '"' _).bind ((takes_readQuoted text after).map Json.str))

theorem reads_readOne_truth (b : Bool) : Reads (readOne nested) (truth b) (.bool b) where
  opens := by
    cases b with
    | true => exact ⟨'t', ['r', 'u', 'e'], rfl, rfl, by decide⟩
    | false => exact ⟨'f', ['a', 'l', 's', 'e'], rfl, rfl, by decide⟩
  takes after closes := by
    cases b with
    | true =>
        exact (takes_valueAhead _ rfl).bind ((takes_advance 't' _).bind
          ((takes_readWord ['r', 'u', 'e'] after).bind (takes_pure (Json.bool true) after)))
    | false =>
        exact (takes_valueAhead _ rfl).bind ((takes_advance 'f' _).bind
          ((takes_readWord ['a', 'l', 's', 'e'] after).bind (takes_pure (Json.bool false) after)))

/-- Whether a document is a text or a flag. -/
inductive Leaf : Json → Prop where
  | str (text : String) : Leaf (.str text)
  | bool (b : Bool) : Leaf (.bool b)

theorem Leaf.reads {j : Json} (leaf : Leaf j) : Reads (readOne nested) j.chars j := by
  cases leaf with
  | str text => exact reads_readOne_quote text
  | bool b => exact reads_readOne_truth b

theorem charsOfFields_eq (fields : List (String × Json)) :
    charsOfFields fields = fields.map fun f => (f.1, f.2.chars) := by
  induction fields with
  | nil => rfl
  | cons f rest ih => rw [charsOfFields, ih, List.map_cons]

theorem charsOfItems_eq (items : List Json) : charsOfItems items = items.map chars := by
  induction items with
  | nil => rfl
  | cons j rest ih => rw [charsOfItems, ih, List.map_cons]

theorem takes_readFields {value : Scan Json} (fields : List (String × Json))
    (each : ∀ f ∈ fields, Reads value f.2.chars f.2) (first : Bool) (spare : Nat) :
    Takes (readFields value (fields.length + spare + 1) first)
      (joined first ((charsOfFields fields).map writtenField) ++ '\x7d' :: after) fields
      ('\x7d' :: after) := by
  induction fields generalizing first with
  | nil => exact (takes_fieldFollows_end first after).bind (takes_pure [] _)
  | cons f rest ih =>
      obtain ⟨name, j⟩ := f
      have reads := each (name, j) List.mem_cons_self
      have more := ih (fun f member => each f (List.mem_cons_of_mem _ member)) false
      have closes := closesValue_joined ((charsOfFields rest).map writtenField) after
        (List.mem_cons_of_mem _ List.mem_cons_self)
      rw [length_cons_spare, charsOfFields]
      refine takes_fieldName first ?_
      exact (reads.named name closes).bind (more.map fun fields => (name, j) :: fields)

/-- An object whose values can be read is read field by field. -/
theorem reads_readOne_object {value : Scan Json} (fields : List (String × Json))
    (each : ∀ f ∈ fields, Reads value f.2.chars f.2) :
    Reads (readOne (some value)) (object (charsOfFields fields)) (.obj fields) where
  opens := ⟨'\x7b', _, rfl, rfl, by decide⟩
  takes after closes := by
    have asMany : (charsOfFields fields).length = fields.length := by
      rw [charsOfFields_eq, List.length_map]
    have body : Takes (fun c => readFields value (c.rest.length + 1) true c)
        (joined true ((charsOfFields fields).map writtenField) ++ '\x7d' :: after) fields
        ('\x7d' :: after) := by
      apply takes_fields fun steps => readFields value steps true
      rw [asMany]
      exact takes_readFields fields each true
    rw [object_append]
    exact (takes_valueAhead _ rfl).bind ((takes_advance '\x7b' _).bind
      ((body.closing (takes_endObject after)).map Json.obj))

/-- A list whose items can be read is read item by item. -/
theorem reads_readOne_list {item : Scan Json} (items : List Json)
    (each : ∀ j ∈ items, Reads item j.chars j) :
    Reads (readOne (some item)) (list (charsOfItems items)) (.arr items) where
  opens := ⟨'[', _, rfl, rfl, by decide⟩
  takes after closes := by
    have text : list (charsOfItems items) ++ after =
        '[' :: (joined true (items.map chars) ++ ']' :: after) := by
      simp [list, commas_eq, charsOfItems_eq]
    have body : Takes (readList item) (joined true (items.map chars) ++ ']' :: after)
        (items.map id) after :=
      takes_readList items each
    rw [List.map_id] at body
    rw [text]
    exact (takes_valueAhead _ rfl).bind ((takes_advance '[' _).bind (body.map Json.arr))

/-- A document of texts and flags in lists and objects that are nested at most so deep. -/
inductive Nested : Nat → Json → Prop where
  | leaf {n : Nat} {j : Json} (leaf : Leaf j) : Nested n j
  | arr {n : Nat} {items : List Json} (each : ∀ j ∈ items, Nested n j) : Nested (n + 1) (.arr items)
  | obj {n : Nat} {fields : List (String × Json)} (each : ∀ f ∈ fields, Nested n f.2) :
      Nested (n + 1) (.obj fields)

theorem readAny_succ {depth : Nat} (more : depth ≠ 0) :
    readAny (depth + 1) = readOne (some (readAny depth)) := by
  rw [readAny, if_neg more]

/-- A reader of any value reads such a document if it is nested less deep than the reader goes. -/
theorem Nested.reads {n depth : Nat} {j : Json} (h : Nested n j) (deep : n < depth) :
    Reads (readAny depth) j.chars j := by
  induction h generalizing depth with
  | leaf leaf =>
      cases depth with
      | zero => exact absurd deep (Nat.not_lt_zero _)
      | succ depth => exact leaf.reads
  | @arr n items each ih =>
      obtain ⟨depth, rfl⟩ := Nat.exists_eq_add_one.mpr (Nat.zero_lt_of_lt deep)
      rw [readAny_succ (by omega)]
      exact reads_readOne_list items fun j member => ih j member (by omega)
  | @obj n fields each ih =>
      obtain ⟨depth, rfl⟩ := Nat.exists_eq_add_one.mpr (Nat.zero_lt_of_lt deep)
      rw [readAny_succ (by omega)]
      exact reads_readOne_object fields fun f member => ih f member (by omega)

/-- A value that is told by the document that it is written as. -/
theorem Reads.untagged {α : Type} {name : String} {make : Json → Option α} {depth : Nat}
    {text : List Char} {j : Json} {a : α} (document : Reads (readAny depth) text j)
    (made : make j = some a) : Reads (readUntagged name make depth) text a where
  opens := document.opens
  takes after closes := by
    refine (document.takes after closes).bind ?_
    rw [made]
    exact takes_pure a after

/-- A document of texts and flags is read as it was written. -/
theorem readText_leaves (fields : List (String × Json)) (leaves : ∀ f ∈ fields, Leaf f.2) :
    readText readAny (Text.glyphsOf (Json.obj fields).print) = .ok (.obj fields) := by
  have reads : Reads (readAny depthLimit) (Json.obj fields).chars (.obj fields) := by
    apply reads_readOne_object
    intro f member
    exact (leaves f member).reads
  exact reads.decodeText

/-! Putting fields in the order of their names. -/

theorem insertField_nil (name : String) (value : Json) :
    insertField name value [] = [(name, value)] := rfl

section

variable {name n : String} {value v : Json} {rest : List (String × Json)}

theorem insertField_of_lt (before : name < n) :
    insertField name value ((n, v) :: rest) = (name, value) :: (n, v) :: rest := by
  have other : (name == n) = false := by
    rw [beq_eq_false_iff_ne]
    rintro rfl
    exact String.lt_irrefl name before
  rw [insertField, other, if_neg Bool.false_ne_true, if_pos before]

theorem insertField_of_gt (behind : n < name) :
    insertField name value ((n, v) :: rest) = (n, v) :: insertField name value rest := by
  have other : (name == n) = false := by
    rw [beq_eq_false_iff_ne]
    rintro rfl
    exact String.lt_irrefl name behind
  have later : ¬name < n := fun before => String.lt_irrefl name (String.lt_trans before behind)
  rw [insertField, other, if_neg Bool.false_ne_true, if_neg later]

end

end AnswerGateway.Json
