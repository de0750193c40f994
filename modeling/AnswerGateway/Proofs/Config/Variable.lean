import AnswerGateway.Proofs.Config.Source
import AnswerGateway.Proofs.Decimal.Parse
import Mathlib.Data.List.Basic

/-!
What becomes of a text that a variable gives. It is read as a truth value or a number if it spells
one, and a setting that wants a text gets that value printed, while a file keeps the text as it is.
So a variable and a file say the same exactly with the texts that are printed as they were spelled.
-/

namespace AnswerGateway.Config

open Setting

/-- The text that a setting gets from a variable: what the variable spells, printed. -/
def readBack (t : String) : String :=
  match variableValue t with
  | .nothing => ""
  | .flag b => toString b
  | .whole i => toString i
  | .double x => String.ofList (Decimal.doublePlain x)
  | .text t => t

theorem toText_variableValue (origin : Option String) (t : String) :
    toText (.scalar origin (variableValue t)) = .ok (readBack t) := by
  have spelled : variableValue t ≠ .nothing := by
    unfold variableValue
    split
    · exact Scalar.noConfusion
    · split
      · exact Scalar.noConfusion
      · split <;> exact Scalar.noConfusion
  unfold readBack
  cases value : variableValue t with
  | nothing => exact absurd value spelled
  | flag b => rfl
  | whole i => rfl
  | double x => rfl
  | text t => rfl

/-- A text that is printed as it was spelled: a truth value in small letters, a whole number as it
is printed, a number with a fraction or an exponent if it is printed so too, and what spells neither
a truth value nor a number. -/
inductive Verbatim : String → Prop where
  | flag (b : Bool) : Verbatim (toString b)
  | whole (i : Int64) : Verbatim (toString i)
  | double {t : String} {x : Float} (value : variableValue t = .double x)
      (printed : String.ofList (Decimal.doublePlain x) = t) : Verbatim t
  | text {t : String} (value : variableValue t = .text t) : Verbatim t

theorem variableValue_flag (b : Bool) : variableValue (toString b) = .flag b := by
  cases b <;> rfl

/-- What stands before the letters has no case. -/
theorem small_of_lt {t : String} (before : ∀ c ∈ t.toList, c.toNat < 'A'.toNat) :
    Text.small t = t := by
  have kept {c : Char} (before : c.toNat < 'A'.toNat) : Text.smallChars c = [c] := by
    have ascii : c.toNat < 0x80 := Nat.lt_trans before (by decide)
    have noCapital : ¬(c.val ≥ 'A'.val ∧ c.val ≤ 'Z'.val) :=
      fun capital => Nat.not_le.mpr before (UInt32.le_iff_toNat_le.mp capital.1)
    have lower : c.toLower = c := dif_neg noCapital
    rw [Text.smallChars, if_pos ascii, lower]
  have chars : t.toList.flatMap Text.smallChars = t.toList.flatMap fun c => [c] :=
    List.flatMap_congr fun c member => kept (before c member)
  rw [Text.small, chars, List.flatMap_singleton', String.ofList_toList]

theorem toString_int_lt {i : Int} {c : Char} (member : c ∈ (toString i).toList) :
    c.toNat < 'A'.toNat := by
  have digit {n : Nat} (member : c ∈ Nat.toDigits 10 n) : c.toNat < 'A'.toNat := by
    have within : 48 ≤ c.toNat ∧ c.toNat ≤ 57 := by
      simpa [Char.isDigit, UInt32.le_iff_toNat_le] using Decimal.isDigit_of_mem_toDigits member
    exact Nat.lt_of_le_of_lt within.2 (by decide)
  rw [Decimal.toList_toString_int] at member
  split at member
  · rcases List.mem_cons.mp member with rfl | behind
    · decide
    · exact digit behind
  · exact digit member

theorem variableValue_whole (i : Int64) : variableValue (toString i) = .whole i := by
  have before : ∀ c ∈ (toString i).toList, c.toNat < 'A'.toNat :=
    fun c member => toString_int_lt (i := i.toInt) member
  have noWord {word : String} (letter : 'e' ∈ word.toList) : Text.small (toString i) ≠ word := by
    rw [small_of_lt before]
    rintro rfl
    exact absurd (before 'e' letter) (by decide)
  rw [variableValue, if_neg (noWord (by decide)), if_neg (noWord (by decide)),
    Decimal.parseInt64?_toString]

theorem readBack_eq_iff {t : String} : readBack t = t ↔ Verbatim t := by
  constructor
  · intro same
    have spelled := toText_variableValue none t
    unfold readBack at same
    cases value : variableValue t with
    | nothing =>
        rw [value] at spelled
        cases spelled
    | flag b =>
        rw [value] at same
        subst same
        exact .flag b
    | whole i =>
        rw [value] at same
        subst same
        exact .whole i
    | double x =>
        rw [value] at same
        exact .double value same
    | text u =>
        rw [value] at same
        subst same
        exact .text value
  · intro verbatim
    unfold readBack
    cases verbatim with
    | flag b => rw [variableValue_flag]
    | whole i => rw [variableValue_whole]
    | double value printed =>
        rw [value]
        exact printed
    | text value => rw [value]

example : readBack "TRUE" = "true" ∧ readBack "+05" = "5" := ⟨rfl, rfl⟩

/-- A text with a character that is in no number and in no truth value. -/
theorem verbatim_of_foreign {t : String} {c : Char} (foreign : Decimal.Foreign c)
    (small : Text.smallChars c = [c]) (noLetter : c ∉ "true".toList ++ "false".toList)
    (member : c ∈ t.toList) : Verbatim t := by
  have noWord {word : String} (within : word.toList ⊆ "true".toList ++ "false".toList) :
      Text.small t ≠ word := by
    rintro rfl
    rw [Text.small, String.toList_ofList] at within
    exact noLetter (within (List.mem_flatMap.mpr ⟨c, member, small ▸ List.mem_cons_self⟩))
  refine .text ?_
  rw [variableValue, if_neg (noWord (by decide)), if_neg (noWord (by decide)),
    Decimal.parseInt64?_eq_none foreign member, Decimal.parseDouble?_eq_none foreign member]

/-- Addresses with a scheme, a path or a port, and names with an underscore, are safe in a
variable. -/
theorem verbatim_of_mark {t : String} {c : Char} (mark : c ∈ ['/', ':', '_'])
    (member : c ∈ t.toList) : Verbatim t := by
  simp only [List.mem_cons, List.not_mem_nil, or_false] at mark
  rcases mark with rfl | rfl | rfl <;>
    exact verbatim_of_foreign ⟨rfl, by decide, by decide⟩ rfl (by decide) member

/-- A text that is given to a setting by a variable is read back there, and whatever else is loaded
is the same as when it is given by a file. A file gives the very text. So the two agree exactly on
the texts that are printed as they were spelled. -/
theorem load_variable_iff (s : TextSetting) {files : List (String × String)} {name t l : String}
    (absent : files.lookup "config/local.json" = none)
    (named : Text.small name = s.variableName)
    (written : Json.parse (withoutMark l) = .ok (s.document t)) :
    load files [(name, t)] = s.set (readBack t) <$> load (("config/local.json", l) :: files) [] ∧
    ∀ c, load (("config/local.json", l) :: files) [] = .ok c →
      s.get c = some t ∧ (load files [(name, t)] = .ok c ↔ Verbatim t) := by
  have tidy (root : Setting) (laid : fileNames.foldlM (overlay files) empty = .ok root) :
      root.Tidy :=
    tidy_overlays .empty laid
  have byVariable : gather files [(name, t)] = s.put "the environment" (variableValue t) <$>
      fileNames.foldlM (overlay files) empty :=
    gather_variable named t
  have byFile := gather_document absent written
  have spoken := toText_variableValue (some "the environment") t
  have differs := load_put tidy byVariable byFile spoken rfl
  refine ⟨differs, fun c loaded => ?_⟩
  -- Compared with itself, the load from the file shows what it has taken over.
  have kept : c = s.set t c := by
    have again := load_put tidy byFile byFile (t := t) rfl rfl
    rw [loaded] at again
    exact Except.ok.inj again
  have text : s.get c = some t := by rw [kept, s.get_set]
  refine ⟨text, ?_⟩
  rw [differs, loaded, ← readBack_eq_iff]
  constructor
  · intro same
    have changed : s.set (readBack t) c = c := Except.ok.inj same
    have read := s.get_set (readBack t) c
    rw [changed, text] at read
    exact (Option.some.inj read).symm
  · intro same
    rw [same]
    exact congrArg Except.ok kept.symm

/-- A collection whose name is a word is the same from a variable and from a file. -/
theorem load_variable_word :
    let name := "APP__SEMANTIC_CACHE__COLLECTION_NAME"
    let l := "\x7b\"semantic_cache\":\x7b\"collection_name\":\"answers\"\x7d\x7d"
    (Text.small name = TextSetting.collection.variableName ∧
      Json.parse (withoutMark l) = .ok (TextSetting.collection.document "answers")) ∧
    load [] [(name, "answers")] = .ok { cache := { collection := "answers" } } := by
  intro name l
  have named : Text.small name = TextSetting.collection.variableName := by decide
  have printed : (TextSetting.collection.document "answers").print = l := rfl
  have written : Json.parse (withoutMark l) = .ok (TextSetting.collection.document "answers") :=
    printed ▸ parse_document _ _
  have loaded : load [("config/local.json", l)] [] =
      .ok (TextSetting.collection.set "answers" {}) :=
    load_put_alone (gather_document rfl written) rfl
  have absent : List.lookup "config/local.json" ([] : List (String × String)) = none := rfl
  obtain ⟨-, agree⟩ := load_variable_iff TextSetting.collection absent named written
  exact ⟨⟨named, written⟩, (agree _ loaded).2.mpr (.text rfl)⟩

/-- A collection whose name is a row of digits loses the zeros at its front, if it is named by a
variable. -/
theorem load_variable_digits :
    let name := "APP__SEMANTIC_CACHE__COLLECTION_NAME"
    let l := "\x7b\"semantic_cache\":\x7b\"collection_name\":\"007\"\x7d\x7d"
    load [] [(name, "007")] = .ok { cache := { collection := "7" } } ∧
    load [("config/local.json", l)] [] = .ok { cache := { collection := "007" } } ∧
    load [] [(name, "007")] ≠ load [("config/local.json", l)] [] := by
  intro name l
  have named : Text.small name = TextSetting.collection.variableName := by decide
  have printed : (TextSetting.collection.document "007").print = l := rfl
  have written : Json.parse (withoutMark l) = .ok (TextSetting.collection.document "007") :=
    printed ▸ parse_document _ _
  have spoken : load [] [(name, "007")] = .ok (TextSetting.collection.set "7" {}) :=
    load_put_alone (gather_variable named "007") rfl
  have kept : load [("config/local.json", l)] [] = .ok (TextSetting.collection.set "007" {}) :=
    load_put_alone (gather_document rfl written) rfl
  refine ⟨spoken, kept, fun same => ?_⟩
  rw [spoken, kept] at same
  have collections : "7" = "007" := congrArg (fun c => c.cache.collection) (Except.ok.inj same)
  exact absurd collections (by decide)

end AnswerGateway.Config
