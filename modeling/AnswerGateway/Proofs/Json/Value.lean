import AnswerGateway.Proofs.Json.Numeral
import AnswerGateway.Proofs.Json.Quoted

/-!
Values inside a document. A reader and a written value fit together if the reader takes exactly that
value, whatever stands behind it; the fitting of a list or a record is made from the fitting of its
parts. A field that a record does not have is passed over, so a record also reads what was written
of a larger one.
-/

namespace AnswerGateway.Json

open Cursor Scan JsonText

variable {α β : Type}

/-- A reader makes `a` of a value that was written so. -/
structure Reads (reader : Scan α) (text : List Char) (a : α) : Prop where
  opens : ∃ x more, text = x :: more ∧ solid x = true ∧ x ≠ ']'
  takes : ∀ after, ClosesValue after → Takes reader (text ++ after) a after

theorem Reads.map {reader : Scan α} {text : List Char} {a : α} (f : α → β)
    (h : Reads reader text a) : Reads (f <$> reader) text (f a) where
  opens := h.opens
  takes after closes := (h.takes after closes).map f

theorem closesValue_cons {x : Char} (h : x ∈ [',', ']', '\x7d']) (more : List Char) :
    ClosesValue (x :: more) := by
  intro a head
  obtain rfl := Option.some.inj head
  exact h

theorem quote_append (text : String) (after : List Char) :
    quote text ++ after = '"' :: (text.toList.flatMap escape ++ '"' :: after) := by
  simp [quote]

theorem opens_quote (text : String) :
    ∃ x more, quote text = x :: more ∧ solid x = true ∧ x ≠ ']' :=
  ⟨'"', text.toList.flatMap escape ++ ['"'], rfl, rfl, by decide⟩

theorem reads_readName (wanted text : String) : Reads (readName wanted) (quote text) text where
  opens := opens_quote text
  takes after closes := by
    rw [quote_append]
    exact (takes_valueAhead _ rfl).bind
      ((takes_advance '"' _).bind (takes_readQuoted text after))

theorem reads_readOptional_none (reader : Reader α) (depth : Nat) :
    Reads (readOptional reader depth) literalNull none where
  opens := ⟨'n', ['u', 'l', 'l'], rfl, rfl, by decide⟩
  takes after closes :=
    (takes_peekToken _ rfl).bind ((takes_advance 'n' _).bind
      ((takes_readWord ['u', 'l', 'l'] after).bind (takes_pure none after)))

theorem reads_readOptional_some {reader : Reader α} {depth : Nat} {text : List Char} {a : α}
    (h : Reads (reader depth) text a) (notNull : text.head? ≠ some 'n') :
    Reads (readOptional reader depth) text (some a) where
  opens := h.opens
  takes after closes := by
    obtain ⟨x, more, rfl, stands, -⟩ := h.opens
    have other : some x ≠ some 'n' := notNull
    refine (takes_peekToken (more ++ after) stands).bind ?_
    rw [if_neg other]
    exact (h.takes after closes).map some

theorem reads_text (text : String) (depth : Nat) :
    Reads ((Format.text : Reader String) depth) (quote text) text :=
  reads_readName "a string" text

theorem reads_nullable_text (text : String) (depth : Nat) :
    Reads (readOptional (Format.text : Reader String) depth) (quote text) (some text) :=
  reads_readOptional_some (reads_text text depth) (show some '"' ≠ some 'n' by decide)

theorem reads_readFlag (b : Bool) : Reads readFlag (truth b) b where
  opens := by
    cases b with
    | true => exact ⟨'t', ['r', 'u', 'e'], rfl, rfl, by decide⟩
    | false => exact ⟨'f', ['a', 'l', 's', 'e'], rfl, rfl, by decide⟩
  takes after closes := by
    cases b with
    | true =>
        exact (takes_valueAhead _ rfl).bind ((takes_advance 't' _).bind
          ((takes_readWord ['r', 'u', 'e'] after).bind (takes_pure true after)))
    | false =>
        exact (takes_valueAhead _ rfl).bind ((takes_advance 'f' _).bind
          ((takes_readWord ['a', 'l', 's', 'e'] after).bind (takes_pure false after)))

/-- One of several names is read by the first option of that name. -/
theorem reads_readChoice {options : List (String × α)} {name : String} {a : α}
    (known : options.lookup name = some a) (depth : Nat) :
    Reads (readChoice options depth) (quote name) a where
  opens := opens_quote name
  takes after closes := by
    have named := (reads_readName "variant identifier" name).takes after closes
    have picked : pick options name = .ok a := by
      rw [pick, known]
    rw [quote_append] at named ⊢
    refine (takes_valueAhead _ rfl).bind (named.bind ?_)
    rw [picked]
    exact takes_pure a after

/-! Values that nobody asked for. -/

theorem takes_skipEnds_nil (text : List Char) : Takes (skipEnds [] true) text [] text :=
  takes_pure [] text

theorem reads_skipAny_quote (text : String) : Reads skipAny (quote text) () where
  opens := opens_quote text
  takes after closes := by
    intro c h
    rw [quote_append] at h
    have skips : Takes (skipValues (c.rest.length + 1) [])
        ('"' :: (text.toList.flatMap escape ++ '"' :: after)) () after :=
      ((takes_valueAhead _ rfl).bind ((takes_advance '"' _).bind
        ((takes_skipQuoted text after).bind (takes_pure ([], true) after)))).bind
          ((takes_skipEnds_nil after).bind (takes_pure () after))
    exact skips c h

theorem reads_skipAny_whole (i : Int) : Reads skipAny (whole i) () where
  opens := by
    obtain ⟨x, more, chars, begins⟩ := intChars_eq i
    exact ⟨x, more, chars, begins.solid, begins.ne (by decide)⟩
  takes after closes := by
    intro c h
    have numeral := takes_skipNumeral i closes
    obtain ⟨x, more, chars, begins⟩ := intChars_eq i
    rw [whole, chars] at h
    rw [chars] at numeral
    have skips : Takes (skipValues (c.rest.length + 1) []) (x :: (more ++ after)) () after := by
      refine Takes.bind (a := ([], true)) ?_
        ((takes_skipEnds_nil after).bind (takes_pure () after))
      refine (takes_valueAhead _ begins.solid).bind ?_
      have null := begins.ne (show ¬BeginsNumeral 'n' by decide)
      have yes := begins.ne (show ¬BeginsNumeral 't' by decide)
      have no := begins.ne (show ¬BeginsNumeral 'f' by decide)
      have text := begins.ne (show ¬BeginsNumeral '"' by decide)
      have list := begins.ne (show ¬BeginsNumeral '[' by decide)
      have object := begins.ne (show ¬BeginsNumeral '\x7b' by decide)
      simp only
      have digit : x = '-' ∨ (digit? x).isSome = true := begins
      rw [if_pos digit]
      exact numeral.bind (takes_pure _ _)
    exact skips c h

/-! The parts of lists and of objects, with commas between them. -/

/-- Parts with commas before them; the first one has none before it. -/
def joined : Bool → List (List Char) → List Char
  | _, [] => []
  | first, text :: rest => (if first then text else ',' :: text) ++ joined false rest

theorem commas_eq (texts : List (List Char)) : commas texts = joined true texts := by
  cases texts with
  | nil => rfl
  | cons first rest =>
      induction rest generalizing first with
      | nil => simp [commas, joined]
      | cons second more ih => simp [commas, ih, joined]

theorem length_le_joined {texts : List (List Char)} (nonempty : ∀ text ∈ texts, text ≠ [])
    (first : Bool) : texts.length ≤ (joined first texts).length := by
  induction texts generalizing first with
  | nil => exact Nat.zero_le _
  | cons text rest ih =>
      have hrest := ih (fun other member => nonempty other (List.mem_cons_of_mem _ member)) false
      have htext := List.length_pos_iff.mpr (nonempty text List.mem_cons_self)
      cases first <;> simp only [joined, List.length_append, List.length_cons, if_true,
        Bool.false_eq_true, if_false] <;> omega

theorem closesValue_joined (texts : List (List Char)) {close : Char} (after : List Char)
    (h : close ∈ [']', '\x7d']) : ClosesValue (joined false texts ++ close :: after) := by
  cases texts with
  | nil => exact closesValue_cons (List.mem_cons_of_mem _ h) after
  | cons text rest => exact closesValue_cons List.mem_cons_self _

theorem takes_deeper {depth : Nat} (deep : 1 < depth) (text : List Char) :
    Takes (deeper depth) text (depth - 1) text := by
  have notLast : ¬depth ≤ 1 := Nat.not_le.mpr deep
  unfold deeper
  rw [if_neg notLast]
  exact takes_pure _ _

/-! Lists. -/

section Lists

variable {reader : Scan α} {write : β → List Char} {value : β → α} {after : List Char}

theorem Reads.ne_nil {text : List Char} {a : α} (h : Reads reader text a) : text ≠ [] := by
  obtain ⟨x, more, rfl, -⟩ := h.opens
  exact List.cons_ne_nil x more

theorem Reads.follows {text : List Char} {a : α} (h : Reads reader text a) (first : Bool)
    (tail : List Char) :
    Takes (itemFollows first) ((if first then text else ',' :: text) ++ tail) true
      (text ++ tail) := by
  obtain ⟨x, more, rfl, stands, inside⟩ := h.opens
  cases first with
  | true => exact takes_itemFollows_first _ stands inside
  | false => exact takes_itemFollows_next _ stands inside

theorem takes_readItems (items : List β)
    (each : ∀ b ∈ items, Reads reader (write b) (value b)) (spare index : Nat) :
    Takes (readItems reader (items.length + spare + 1) index)
      (joined (index == 0) (items.map write) ++ ']' :: after) (items.map value)
      (']' :: after) := by
  induction items generalizing index with
  | nil =>
      have none? : Takes (within (.item index) do
          if ← itemFollows (index == 0) then some <$> reader else pure none)
          (']' :: after) none (']' :: after) :=
        .within _ ((takes_itemFollows_end (index == 0) after).bind (takes_pure none _))
      exact none?.bind (takes_pure [] _)
  | cons b rest ih =>
      have hb := each b List.mem_cons_self
      have hrest := ih (fun b member => each b (List.mem_cons_of_mem _ member)) (index + 1)
      have closes : ClosesValue (joined false (rest.map write) ++ ']' :: after) :=
        closesValue_joined _ after (by decide)
      have some? : Takes (within (.item index) do
          if ← itemFollows (index == 0) then some <$> reader else pure none)
          (joined (index == 0) ((b :: rest).map write) ++ ']' :: after) (some (value b))
          (joined false (rest.map write) ++ ']' :: after) := by
        rw [List.map_cons, joined, List.append_assoc]
        exact .within _ ((hb.follows _ _).bind ((hb.takes _ closes).map some))
      rw [length_cons_spare, List.map_cons]
      exact some?.bind (hrest.map (value b :: ·))

theorem takes_readList (items : List β)
    (each : ∀ b ∈ items, Reads reader (write b) (value b)) :
    Takes (readList reader) (joined true (items.map write) ++ ']' :: after) (items.map value)
      after := by
  have nonempty : ∀ text ∈ items.map write, text ≠ [] := by
    intro text member
    obtain ⟨b, hb, rfl⟩ := List.mem_map.mp member
    exact (each b hb).ne_nil
  refine Takes.closing ?_ (takes_endList after)
  intro c h
  obtain ⟨spare, steps⟩ := h.exists_spare (length_le_joined nonempty true)
  have reads := takes_readItems items each spare 0 c h
  rw [List.length_map] at steps
  rwa [← steps] at reads

theorem reads_readListOf {reader : Reader α} {depth : Nat} (deep : 1 < depth) (items : List β)
    (each : ∀ b ∈ items, Reads (reader (depth - 1)) (write b) (value b)) :
    Reads (readListOf reader depth) (list (items.map write)) (items.map value) where
  opens := ⟨'[', commas (items.map write) ++ [']'], rfl, rfl, by decide⟩
  takes after closes := by
    have text : list (items.map write) ++ after =
        '[' :: (joined true (items.map write) ++ ']' :: after) := by
      simp [list, commas_eq]
    rw [text]
    exact (takes_valueAhead _ rfl).bind ((takes_deeper deep _).bind
      ((takes_advance '[' _).bind (takes_readList items each)))

/-- A list whose items are read back is read back. -/
theorem reads_readListOf_self {reader : Reader α} {write : α → List Char} {depth : Nat}
    (deep : 1 < depth) (items : List α)
    (each : ∀ a ∈ items, Reads (reader (depth - 1)) (write a) a) :
    Reads (readListOf reader depth) (list (items.map write)) items := by
  have reads : Reads (readListOf reader depth) (list (items.map write)) (items.map id) := by
    apply reads_readListOf deep
    exact each
  rwa [List.map_id] at reads

end Lists

/-! Records. -/

/-- A field of an object as it is written. -/
def writtenField (part : String × List Char) : List Char := quote part.1 ++ ':' :: part.2

/-- What the written fields of an object, in their order, make of a record. Those that it does not
have are passed over. -/
inductive Fills (fields : List (Field Reader α)) (depth : Nat) :
    List String → α → List (String × List Char) → α → Prop where
  | done {seen : List String} {a : α} (complete : firstMissing fields seen = none) :
      Fills fields depth seen a [] a
  | known {seen : List String} {a b : α} {name : String} {text : List Char}
      {rest : List (String × List Char)} {f : Field Reader α} {change : α → α}
      (found : fields.find? (·.name == name) = some f) (fresh : seen.contains name = false)
      (value : Reads (f.change depth) text change)
      (more : Fills fields depth (name :: seen) (change a) rest b) :
      Fills fields depth seen a ((name, text) :: rest) b
  | unknown {seen : List String} {a b : α} {name : String} {text : List Char}
      {rest : List (String × List Char)} (missing : fields.find? (·.name == name) = none)
      (value : Reads skipAny text ()) (more : Fills fields depth seen a rest b) :
      Fills fields depth seen a ((name, text) :: rest) b

section Records

variable {fields : List (Field Reader α)} {depth : Nat} {after : List Char}

theorem writtenField_append (name : String) (text tail : List Char) :
    writtenField (name, text) ++ tail =
      '"' :: (name.toList.flatMap escape ++ '"' :: ':' :: (text ++ tail)) := by
  simp [writtenField, quote]

theorem object_append (parts : List (String × List Char)) (after : List Char) :
    object parts ++ after =
      '\x7b' :: (joined true (parts.map writtenField) ++ '\x7d' :: after) := by
  have same : (fun f : String × List Char => quote f.1 ++ ':' :: f.2) = writtenField := rfl
  simp [object, same, commas_eq]

/-- A text is long enough for a reader that takes a step for each of the fields in it. -/
theorem takes_fields (read : Nat → Scan α) {parts : List (String × List Char)} {a : α}
    (each : ∀ spare, Takes (read (parts.length + spare + 1))
      (joined true (parts.map writtenField) ++ '\x7d' :: after) a ('\x7d' :: after)) :
    Takes (fun c => read (c.rest.length + 1) c)
      (joined true (parts.map writtenField) ++ '\x7d' :: after) a ('\x7d' :: after) := by
  have nonempty : ∀ text ∈ parts.map writtenField, text ≠ [] := by
    intro text member
    obtain ⟨part, -, rfl⟩ := List.mem_map.mp member
    exact List.cons_ne_nil _ _
  intro c hc
  obtain ⟨spare, steps⟩ := hc.exists_spare (length_le_joined nonempty true)
  have reads := each spare c hc
  rw [List.length_map] at steps
  rwa [← steps] at reads

/-- A reader of fields gets to know the name of the next one. -/
theorem takes_fieldName {name : String} {text final : List Char} {parts : List (String × List Char)}
    {value : String → Scan α} {none? : Scan α} {a : α} (first : Bool)
    (more : Takes (value name)
      (':' :: (text ++ (joined false (parts.map writtenField) ++ '\x7d' :: after))) a final) :
    Takes (do
      if ← fieldFollows first then
        advance
        let name ← readQuoted
        value name
      else none?)
      (joined first (((name, text) :: parts).map writtenField) ++ '\x7d' :: after) a final := by
  rw [List.map_cons, joined, List.append_assoc]
  have named := (takes_readQuoted name _).bind more
  refine Takes.bind (a := true) ?_ ((takes_advance '"' _).bind named)
  cases first with
  | true =>
      rw [if_pos rfl, writtenField_append]
      exact takes_fieldFollows_first _
  | false =>
      rw [if_neg Bool.false_ne_true, List.cons_append, writtenField_append]
      exact takes_fieldFollows_next _

/-- What is read behind the name of a field. -/
theorem Reads.named {γ : Type} {reader : Scan γ} {text tail : List Char} {v : γ} (name : String)
    (value : Reads reader text v) (closes : ClosesValue tail) :
    Takes (within (.field name) do
      readColon
      reader) (':' :: (text ++ tail)) v tail :=
  .within _ ((takes_readColon _).bind (value.takes tail closes))

theorem Fills.takes {seen : List String} {a b : α} {parts : List (String × List Char)}
    (h : Fills fields depth seen a parts b) (first : Bool) (spare : Nat) :
    Takes (readRecordFields fields depth (parts.length + spare + 1) first seen a)
      (joined first (parts.map writtenField) ++ '\x7d' :: after) b ('\x7d' :: after) := by
  induction h generalizing first with
  | @done seen a complete =>
      refine (takes_fieldFollows_end first after).bind ?_
      simp only [complete]
      exact takes_pure a _
  | @known seen a b name text rest f change found fresh value more ih =>
      have closes := closesValue_joined (rest.map writtenField) after
        (List.mem_cons_of_mem _ List.mem_cons_self)
      rw [length_cons_spare]
      refine takes_fieldName first ?_
      simp only [found, fresh]
      exact (value.named name closes).bind (ih false)
  | @unknown seen a b name text rest missing value more ih =>
      have closes := closesValue_joined (rest.map writtenField) after
        (List.mem_cons_of_mem _ List.mem_cons_self)
      rw [length_cons_spare]
      refine takes_fieldName first ?_
      simp only [missing]
      exact (value.named name closes).bind (ih false)

theorem reads_readRecord {name : String} {start a : α} {parts : List (String × List Char)}
    (deep : 1 < depth) (h : Fills fields (depth - 1) [] start parts a) :
    Reads (readRecord name start fields depth) (object parts) a where
  opens := ⟨'\x7b', _, rfl, rfl, by decide⟩
  takes after closes := by
    let read (steps : Nat) := readRecordFields fields (depth - 1) steps true [] start
    have body : Takes (fun c => read (c.rest.length + 1) c)
        (joined true (parts.map writtenField) ++ '\x7d' :: after) a ('\x7d' :: after) :=
      takes_fields read fun spare => h.takes true spare
    rw [object_append]
    exact (takes_valueAhead _ rfl).bind ((takes_deeper deep _).bind
      ((takes_advance '\x7b' _).bind (body.closing (takes_endObject after))))

end Records

/-- A text that is one value is read as that value. -/
theorem Reads.decodeText {reader : Reader α} {text : List Char} {a : α}
    (h : Reads (reader depthLimit) text a) :
    decodeText reader (String.ofList text) = .ok a := by
  have faces : (Cursor.start (Text.glyphsOf (String.ofList text))).Faces (text ++ []) := by
    simp [Cursor.Faces, Cursor.start, Text.glyphsOf]
  have last : ClosesValue [] := fun x head => nomatch head
  obtain ⟨c, hread, hc⟩ := h.takes [] last _ faces
  have done : c.skip.atEnd = true := by
    unfold Cursor.Faces at hc
    simp [Cursor.skip, hc, skipFrom, Cursor.atEnd]
  unfold Json.decodeText readText
  rw [hread]
  show (if _ then _ else _) = _
  rw [if_pos done]

end AnswerGateway.Json
