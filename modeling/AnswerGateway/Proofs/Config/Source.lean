import AnswerGateway.Proofs.Config.TextSetting
import AnswerGateway.Proofs.Json.Document

/-!
A text among the settings that comes from a file or from a variable. The document that gives a
setting a text and the variable of the same name put it at the same place, over whatever is in the
other file, so two such sources load configurations that differ in this setting only.
-/

namespace AnswerGateway

/-! Documents that say one value. -/

namespace Json

/-- An object for every name of the path, each of them in the one before, and the document in the
last. -/
def within (j : Json) : List String → Json
  | [] => j
  | name :: path => .obj [(name, j.within path)]

variable {j : Json} {path : List String}

theorem canonical_within (ordered : j.canonical = j) :
    (j.within path).canonical = j.within path := by
  induction path with
  | nil => exact ordered
  | cons name path ih => simp [within, canonical, canonicalFields, insertField, ih]

theorem nested_within (t : String) (path : List String) :
    Nested path.length ((Json.str t).within path) := by
  induction path with
  | nil => exact .leaf (.str t)
  | cons name path ih => exact .obj fun f member => List.mem_singleton.mp member ▸ ih

theorem parse_within (t : String) (shallow : path.length < depthLimit) :
    parse ((Json.str t).within path).print = .ok ((Json.str t).within path) := by
  have document := ((nested_within t path).reads shallow).decodeText
  show canonical <$> decodeText readAny ((Json.str t).within path).print = _
  rw [print, document]
  exact congrArg Except.ok (canonical_within rfl)

end Json

namespace Config

open Setting

theorem ofJson_within (file : String) (j : Json) (path : List String) :
    ofJson file (j.within path) = nest (some file) (ofJson file j) path := by
  induction path with
  | nil => rfl
  | cons name path ih => rw [Json.within, ofJson, ofFields, ofFields, ih, nest]

/-! Where a text is put. -/

/-- The name of the variable for a setting, in small letters. -/
def TextSetting.variableName (s : TextSetting) : String := "app__" ++ "__".intercalate s.path

/-- The document that gives a setting a text, and nothing else. -/
def TextSetting.document (s : TextSetting) (t : String) : Json := (Json.str t).within s.path

section Put

variable {s : TextSetting} {t name file l : String} {files : List (String × String)}
variable {root : Setting}

/-- The tree with a scalar at the place of the setting. -/
abbrev TextSetting.put (s : TextSetting) (origin : String) (v : Scalar) (root : Setting) :
    Setting :=
  placeAt (.scalar (some origin) v) (s.path.map .name) root

theorem withoutMark_print (fields : List (String × Json)) :
    withoutMark (Json.obj fields).print = (Json.obj fields).print := by
  rw [withoutMark, Json.print, String.toList_ofList]
  rfl

/-- Whatever the text, there is a file that gives it to the setting. -/
theorem parse_document (s : TextSetting) (t : String) :
    Json.parse (withoutMark (s.document t).print) = .ok (s.document t) := by
  have unmarked : withoutMark (s.document t).print = (s.document t).print := by
    cases s <;> exact withoutMark_print _
  have shallow : s.path.length < Json.depthLimit := by cases s <;> decide
  rw [unmarked]
  exact Json.parse_within t shallow

theorem fileSettings_document (file : String)
    (written : Json.parse (withoutMark l) = .ok (s.document t)) :
    ∃ entries, fileSettings file l = .ok entries ∧
      ∀ root, layer entries root = s.put file (.text t) root := by
  obtain ⟨name, path, whole, first⟩ :
      ∃ name path, s.path = name :: path ∧ pathOf name = [.name name] := by
    cases s <;> exact ⟨_, _, rfl, by decide⟩
  refine ⟨[(name, nest (some file) (.scalar (some file) (.text t)) path)], ?_, fun root => ?_⟩
  · have table := ofJson_within file (.str t) (name :: path)
    unfold fileSettings
    simp only [written, TextSetting.document, whole, table, nest, ofJson]
  · show placeAt _ (pathOf name) root = _
    rw [first, TextSetting.put, whole]
    exact place_nest (some file) _ path name root

theorem layer_variable (named : Text.small name = s.variableName) (t : String) :
    layer ([(name, t)].filterMap fun v => variableSetting? v.1 v.2) root =
      s.put "the environment" (variableValue t) root := by
  have chars : s.variableName.toList = variableStart ++ ("__".intercalate s.path).toList :=
    String.toList_append
  have read : variableSetting? name t = some
      (String.ofList (dotted ("__".intercalate s.path).toList),
        .scalar (some "the environment") (variableValue t)) := by
    rw [variableSetting?, named, chars, List.drop_left, if_pos]
    exact List.isPrefixOf_iff_prefix.mpr (List.prefix_append _ _)
  have path : pathOf (String.ofList (dotted ("__".intercalate s.path).toList)) =
      s.path.map .name := by
    cases s <;> decide +kernel
  simp only [List.filterMap_cons, List.filterMap_nil, read, layer, List.foldl_cons,
    List.foldl_nil, path]

/-- Lays the file of that name over the tree, if it is there. -/
def overlay (files : List (String × String)) (root : Setting) (file : String) :
    Except LoadFailure Setting :=
  match files.lookup file with
  | some text => return layer (← fileSettings file text) root
  | none => return root

theorem gather_eq (files : List (String × String)) (env : Environment) :
    gather files env = layer (env.filterMap fun v => variableSetting? v.1 v.2) <$>
      fileNames.foldlM (overlay files) empty := by
  show fileNames.foldlM (overlay files) empty >>= _ = _
  cases fileNames.foldlM (overlay files) empty <;> rfl

theorem overlay_absent (absent : files.lookup file = none) :
    overlay files root file = .ok root := by
  rw [overlay, absent]
  rfl

theorem tidy_overlay {laid : Setting} (tidy : root.Tidy)
    (result : overlay files root file = .ok laid) : laid.Tidy := by
  unfold overlay at result
  split at result
  · rename_i text found
    cases read : fileSettings file text with
    | error e =>
        rw [read] at result
        cases result
    | ok entries =>
        rw [read] at result
        cases result
        exact tidy.layer entries
  · cases result
    exact tidy

theorem tidy_overlays {laid : Setting} {names : List String} (tidy : root.Tidy)
    (result : names.foldlM (overlay files) root = .ok laid) : laid.Tidy := by
  induction names generalizing root with
  | nil =>
      cases result
      exact tidy
  | cons name rest ih =>
      rw [List.foldlM_cons] at result
      cases first : overlay files root name with
      | error e =>
          rw [first] at result
          cases result
      | ok next =>
          rw [first] at result
          exact ih (tidy_overlay tidy first) result

theorem gather_document (absent : files.lookup "config/local.json" = none)
    (written : Json.parse (withoutMark l) = .ok (s.document t)) :
    gather (("config/local.json", l) :: files) [] =
      s.put "config/local.json" (.text t) <$> fileNames.foldlM (overlay files) empty := by
  obtain ⟨entries, read, placed⟩ := fileSettings_document "config/local.json" written
  have below : overlay (("config/local.json", l) :: files) empty "config/default.json" =
      overlay files empty "config/default.json" := rfl
  have given (root : Setting) :
      overlay (("config/local.json", l) :: files) root "config/local.json" =
        .ok (s.put "config/local.json" (.text t) root) := by
    simp only [overlay, List.lookup_cons_self, read, ← placed]
    rfl
  simp only [gather_eq, fileNames, List.foldlM_cons, List.foldlM_nil, below, given,
    overlay_absent absent]
  cases overlay files empty "config/default.json" <;> rfl

theorem gather_variable (named : Text.small name = s.variableName) (t : String) :
    gather files [(name, t)] =
      s.put "the environment" (variableValue t) <$> fileNames.foldlM (overlay files) empty := by
  have placed : layer ([(name, t)].filterMap fun v => variableSetting? v.1 v.2) =
      s.put "the environment" (variableValue t) :=
    funext fun root => layer_variable named t
  rw [gather_eq, placed]

theorem load_eq (files : List (String × String)) (env : Environment) :
    load files env = gather files env >>= fun root =>
      ((format : FromSetting Config) root).mapError .misfit := by
  unfold load
  cases gather files env with
  | error e => rfl
  | ok root =>
      dsimp only [bind, Except.bind]
      cases (format : FromSetting Config) root <;> rfl

/-- Two sources that put a text at the place of the same setting differ in that setting only. -/
theorem load_put {env env' : Environment} {files' : List (String × String)} {o o' : String}
    {v v' : Scalar} {t' : String} {laid : Except LoadFailure Setting}
    (tidy : ∀ root, laid = .ok root → root.Tidy)
    (here : gather files env = s.put o v <$> laid)
    (there : gather files' env' = s.put o' v' <$> laid)
    (text : toText (.scalar (some o) v) = .ok t)
    (text' : toText (.scalar (some o') v') = .ok t') :
    load files env = s.set t <$> load files' env' := by
  rw [load_eq, load_eq, here, there]
  cases laid with
  | error e => rfl
  | ok root =>
      have same : (format : FromSetting Config) (s.put o v root) =
          s.set t <$> (format : FromSetting Config) (s.put o' v' root) :=
        s.reaches (tidy root rfl) text text'
      show ((format : FromSetting Config) (s.put o v root)).mapError _ =
        s.set t <$> ((format : FromSetting Config) (s.put o' v' root)).mapError _
      rw [same]
      cases (format : FromSetting Config) (s.put o' v' root) <;> rfl

/-- Without other files, there is nothing that a text could not be loaded with. -/
theorem load_put_alone {env : Environment} {o : String} {v : Scalar}
    (here : gather files env = s.put o v <$> .ok empty)
    (text : toText (.scalar (some o) v) = .ok t) :
    load files env = .ok (s.set t {}) := by
  have blank : (format : FromSetting Config) (s.put o (.text "") empty) = .ok (s.set "" {}) := by
    cases s <;> rfl
  have same : (format : FromSetting Config) (s.put o v empty) =
      s.set t <$> (format : FromSetting Config) (s.put o (.text "") empty) :=
    s.reaches .empty text rfl
  have once : s.set t (s.set "" {}) = s.set t {} := by cases s <;> rfl
  rw [load_eq, here]
  show ((format : FromSetting Config) (s.put o v empty)).mapError _ = _
  rw [same, blank]
  exact congrArg Except.ok once

end Put

end Config

end AnswerGateway
