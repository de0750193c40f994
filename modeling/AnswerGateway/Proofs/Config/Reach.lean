import AnswerGateway.Proofs.Config.Layer

/-!
What one text among the settings decides. A reader reaches a text at the end of a path if this text
has one effect on what is read and no other: with another text there, the reader fails as before, or
it reads the same but for that effect. A record reaches what one of its fields reaches if its other
fields leave it alone.
-/

namespace AnswerGateway.Config

open Json (Field)
open Json.Format (defaulted nullableDefaulted)
open Setting

variable {α β : Type} {path : List String}

/-- What a text at the end of the path does to what is read, whatever was read with another text. -/
def Reaches (read : FromSetting α) (path : List String) (act : String → α → α) : Prop :=
  ∀ ⦃root : Setting⦄ ⦃o o' : Option String⦄ ⦃v v' : Scalar⦄ ⦃t t' : String⦄, root.Tidy →
    toText (.scalar o v) = .ok t → toText (.scalar o' v') = .ok t' →
    read (placeAt (.scalar o v) (path.map .name) root) =
      act t <$> read (placeAt (.scalar o' v') (path.map .name) root)

namespace Reaches

theorem text : Reaches toText [] fun t _ => t := by
  intro root o o' v v' t t' tidy spoken spoken'
  rw [List.map_nil, placeAt, placeAt, spoken, spoken']
  rfl

/-- A value that is spoken as a text is not null. -/
theorem optional : Reaches (toOptional toText) [] fun t _ => some t := by
  have given {o : Option String} {v : Scalar} {t : String} (spoken : toText (.scalar o v) = .ok t) :
      toOptional toText (.scalar o v) = some <$> toText (.scalar o v) := by
    cases v with
    | nothing => cases spoken
    | flag b => rfl
    | whole i => rfl
    | double x => rfl
    | text s => rfl
  intro root o o' v v' t t' tidy spoken spoken'
  rw [List.map_nil, placeAt, placeAt, given spoken, given spoken', spoken, spoken']
  rfl

theorem map {read : FromSetting α} {act : String → α → α} {f : α → β} {act' : String → β → β}
    (inner : Reaches read path act) (through : ∀ t a, f (act t a) = act' t (f a)) :
    Reaches (Json.Format.map f read) path act' := by
  intro root o o' v v' t t' tidy spoken spoken'
  show f <$> read _ = act' t <$> f <$> read _
  rw [inner tidy spoken spoken']
  cases read (placeAt (.scalar o' v') (path.map .name) root) with
  | error e => rfl
  | ok a => exact congrArg Except.ok (through t a)

end Reaches

/-- A field whose changes have nothing to do with what the texts change. -/
def Keeps (act : String → α → α) (f : Field FromSetting α) : Prop :=
  ∀ ⦃s : Setting⦄ ⦃change : α → α⦄, f.change s = .ok change →
    ∀ t a, change (act t a) = act t (change a)

theorem keeps_of_apart {act : String → α → α} {name : String} {absence : Json.Absence}
    {read : FromSetting β} {set : β → α → α}
    (apart : ∀ t b a, set b (act t a) = act t (set b a)) :
    Keeps act ⟨name, absence, Json.Format.map set read⟩ := by
  intro s change changed t a
  have split : set <$> read s = .ok change := changed
  cases inside : read s with
  | error e =>
      rw [inside] at split
      cases split
  | ok b =>
      rw [inside] at split
      cases split
      exact apart t b a

section Names

variable {D : Type → Type} [Json.Format D] (name : String) (read : D β)

@[simp]
theorem name_defaulted (set : β → α → α) : (defaulted name read set).name = name := rfl

@[simp]
theorem name_nullableDefaulted (set : Option β → α → α) :
    (nullableDefaulted name read set).name = name := rfl

end Names

section Defaulted

variable {act : String → α → α} {name : String} {read : FromSetting β}

@[simp]
theorem keeps_defaulted {set : β → α → α} (apart : ∀ t b a, set b (act t a) = act t (set b a)) :
    Keeps act (defaulted name read set) :=
  keeps_of_apart apart

@[simp]
theorem keeps_nullableDefaulted {set : Option β → α → α}
    (apart : ∀ t b a, set b (act t a) = act t (set b a)) :
    Keeps act (nullableDefaulted name read set) :=
  keeps_of_apart apart

end Defaulted

section Record

variable {fields : List (Field FromSetting α)} {f : Field FromSetting α} {act : String → α → α}
variable {name t : String} {entries : List (String × Setting)}

theorem recordOfEntries_kept (others : ∀ f ∈ fields, f.name ≠ name → Keeps act f)
    (without : name ∉ entries.map Prod.fst) (seen : List String) (a : α) :
    recordOfEntries fields entries seen (act t a) =
      act t <$> recordOfEntries fields entries seen a := by
  induction entries generalizing seen a with
  | nil =>
      rw [recordOfEntries, recordOfEntries]
      cases Json.firstMissing fields seen <;> rfl
  | cons e rest ih =>
      obtain ⟨n, s⟩ := e
      obtain ⟨other, without⟩ := List.ne_and_not_mem_of_not_mem_cons without
      simp only [recordOfEntries]
      cases found : fields.find? (·.name == n) with
      | none => exact ih without seen a
      | some f =>
          have named : f.name = n := by simpa using List.find?_some found
          have keeps := others f (List.mem_of_find?_eq_some found) (named ▸ Ne.symm other)
          dsimp only
          cases changed : f.change s with
          | error e => rfl
          | ok change =>
              dsimp only
              rw [keeps changed t a]
              exact ih without (n :: seen) (change a)

theorem recordOfEntries_setEntry {v v' : Setting} (found : fields.find? (·.name == name) = some f)
    (inner : f.change v = (act t ∘ ·) <$> f.change v')
    (others : ∀ f ∈ fields, f.name ≠ name → Keeps act f)
    (once : (entries.map Prod.fst).Nodup) (seen : List String) (a : α) :
    recordOfEntries fields (setEntry name v entries) seen a =
      act t <$> recordOfEntries fields (setEntry name v' entries) seen a := by
  -- No name comes twice, so what is read behind the entry has nothing to do with it.
  have here {rest : List (String × Setting)} (without : name ∉ rest.map Prod.fst)
      (seen : List String) (a : α) :
      recordOfEntries fields ((name, v) :: rest) seen a =
        act t <$> recordOfEntries fields ((name, v') :: rest) seen a := by
    simp only [recordOfEntries, found, inner]
    cases f.change v' with
    | error e => rfl
    | ok change => exact recordOfEntries_kept others without (name :: seen) (change a)
  induction entries generalizing seen a with
  | nil => exact here List.not_mem_nil seen a
  | cons e rest ih =>
      obtain ⟨n, s⟩ := e
      obtain ⟨without, once⟩ := List.nodup_cons.mp once
      rw [setEntry, setEntry]
      split
      · rename_i same
        subst same
        exact here without seen a
      · simp only [recordOfEntries]
        cases fields.find? (·.name == n) with
        | none => exact ih once seen a
        | some g =>
            dsimp only
            cases g.change s with
            | error e => rfl
            | ok change => exact ih once (n :: seen) (change a)

/-- A record reaches what its field of that name reaches, if its other fields leave that alone. -/
theorem Reaches.inRecord {type : String} {absence : Json.Absence} {start : α}
    {read : FromSetting β} {set : β → α → α} {inside : String → β → β}
    (inner : Reaches read path inside) (small : Text.small name = name)
    (found : fields.find? (·.name == name) = some ⟨name, absence, Json.Format.map set read⟩)
    (through : ∀ t b a, set (inside t b) a = act t (set b a))
    (others : ∀ f ∈ fields, f.name ≠ name → Keeps act f) :
    Reaches (Json.Format.record type start fields) (name :: path) act := by
  intro root o o' v v' t t' tidy spoken spoken'
  have changes : Reaches (Json.Format.map set read) path fun t change => act t ∘ change :=
    Reaches.map inner fun t b => funext (through t b)
  rw [placeAt_scalar, placeAt_scalar, small]
  exact recordOfEntries_setEntry found
    (changes (tidy.child (.scalar none .nothing)) spoken spoken') others tidy.once [] start

end Record

end AnswerGateway.Config
