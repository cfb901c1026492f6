import ShaderVariants.Configuration.Basic

/-!
What a document says about each key of the configuration.

`Key` lists the keys, and `Key.given?` is the value a document gives to one, whatever else is in its
section and whether the section is there at all.  A document that loads is read key by key
(`ofTable?_eq_some_iff`), so what it leaves out has the same content for every reason for which it
may be missing.
-/
namespace ShaderVariants.Configuration

open Toml (Value Fields)

/-- The keys a configuration knows. -/
inductive Key where
  | target
  | customPath
  | platform
  | buildTarget
  | versionLine
  | extension
  | directory
  | debounce
deriving DecidableEq, Repr

namespace Key

/-- The section of a key. -/
def heading : Key → String
  | .target | .customPath => "compiler"
  | .platform | .buildTarget | .versionLine | .extension | .directory => "variant"
  | .debounce => "watch"

/-- What a key is called in a section that is a table. -/
def name : Key → String
  | .target => "target"
  | .customPath => "custom_path"
  | .platform => "platform"
  | .buildTarget => "build_target"
  | .versionLine => "version_line"
  | .extension => "extension"
  | .directory => "temp_dir"
  | .debounce => "debounce_ms"

/-- Where a key stands in a section that is an array. -/
def place : Key → Nat
  | .target | .platform | .debounce => 0
  | .customPath | .buildTarget => 1
  | .versionLine => 2
  | .extension => 3
  | .directory => 4

/-- What a key stands for. -/
abbrev Content : Key → Type
  | .target => CompilerKind
  | .platform => Platform
  | .buildTarget => BuildTarget
  | .versionLine | .extension => String
  | .customPath | .directory => Option Path
  | .debounce => Nat

def content : (key : Key) → Configuration → key.Content
  | .target, configuration => configuration.compiler.target
  | .customPath, configuration => configuration.compiler.customPath?
  | .platform, configuration => configuration.variant.platform
  | .buildTarget, configuration => configuration.variant.buildTarget
  | .versionLine, configuration => configuration.variant.versionLine
  | .extension, configuration => configuration.variant.extension
  | .directory, configuration => configuration.variant.directory?
  | .debounce, configuration => configuration.watch.debounce

/-- The content that a value says, if it says one. -/
def read? : (key : Key) → Value → Option key.Content
  | .target, value => value.choice? CompilerKind.ofName?
  | .platform, value => value.choice? Platform.ofName?
  | .buildTarget, value => value.choice? BuildTarget.ofName?
  | .versionLine, value | .extension, value => value.string?
  | .customPath, value | .directory, value => value.path?.map some
  | .debounce, value => value.natural?

end Key

/-- What stands under a name, or at a place, in one section of a document. -/
def find? (entries : List (String × Value)) (heading : String) (place : Nat) (name : String) :
    Option Value := do
  let part ← entries.lookup heading
  let fields ← part.fields?
  fields.get? place name

/-- The value a document gives to a key. -/
def Key.given? (key : Key) (entries : List (String × Value)) : Option Value :=
  find? entries key.heading key.place key.name

/-- Whether a section, if a document has it, is one that keys can stand in. -/
def HasKeys (entries : List (String × Value)) (heading : String) : Prop :=
  ∀ part, entries.lookup heading = some part → part.fields?.isSome = true

/-- The content is what the value says, and the usual one without a value. -/
def Says (read? : Value → Option α) (usual : α) (given? : Option Value) (content : α) : Prop :=
  match given? with
  | some value => read? value = some content
  | none => content = usual

/-- Each key has the content its value says, or its usual one if the document gives it none. -/
def Overrides (entries : List (String × Value)) (configuration : Configuration) : Prop :=
  ∀ key : Key, Says key.read? (key.content {}) (key.given? entries) (key.content configuration)

variable {α σ : Type} {fields : Fields} {value : Value} {entries more : List (String × Value)}
  {configuration newest : Configuration} {place : Nat} {name heading : String}

theorem getOr_eq_some_iff {usual found : α} {decode : Value → Option α} :
    fields.getOr place name usual decode = some found ↔
      Says decode usual (fields.get? place name) found := by
  unfold Fields.getOr Says
  cases fields.get? place name with
  | some value => rfl
  | none => simp [eq_comm]

theorem optional_eq_some_iff {found : Option α} {decode : Value → Option α} :
    fields.optional place name decode = some found ↔
      Says (fun value => (decode value).map some) none (fields.get? place name) found := by
  unfold Fields.optional Says
  cases fields.get? place name with
  | some value => rfl
  | none => simp [eq_comm]

/-- How a section is read: `reads` says what it takes the values to mean that it finds in itself,
and the usual section is the one that finds nothing. -/
structure ReadBy (ofValue? : Value → Option σ) (usual : σ)
    (reads : (Nat → String → Option Value) → σ → Prop) : Prop where
  present : ∀ {value found},
    ofValue? value = some found ↔ ∃ fields, value.fields? = some fields ∧ reads fields.get? found
  absent : ∀ {found}, reads (fun _ _ => none) found ↔ found = usual

theorem ReadBy.getOr_eq_some_iff {ofValue? : Value → Option σ} {usual found : σ}
    {reads : (Nat → String → Option Value) → σ → Prop} (readBy : ReadBy ofValue? usual reads) :
    (Fields.named entries).getOr place heading usual ofValue? = some found ↔
      HasKeys entries heading ∧ reads (find? entries heading) found := by
  rw [Configuration.getOr_eq_some_iff, Fields.get?]
  cases there : entries.lookup heading with
  | none =>
      have nothing : find? entries heading = fun _ _ => none := by
        funext place name
        rw [find?, there]
        rfl
      simp [HasKeys, Says, there, nothing, readBy.absent]
  | some part =>
      cases keyed : part.fields? with
      | none => simp [HasKeys, Says, there, readBy.present, keyed]
      | some fields =>
          have found_in : find? entries heading = fields.get? := by
            funext place name
            rw [find?, there, Option.bind_eq_bind, Option.bind_some, keyed]
            rfl
          simp [HasKeys, Says, there, readBy.present, keyed, found_in]

theorem readBy_compiler :
    ReadBy CompilerSection.ofValue? {} fun find part =>
      Says Key.target.read? .malioc (find 0 "target") part.target ∧
      Says Key.customPath.read? none (find 1 "custom_path") part.customPath? where
  present := by
    intro value found
    simp only [CompilerSection.ofValue?, Option.bind_eq_bind, Option.bind_eq_some_iff,
      Configuration.getOr_eq_some_iff, optional_eq_some_iff, Option.pure_def, Option.some.injEq]
    constructor
    · intro ⟨fields, keyed, target, said, customPath, also, same⟩
      cases same
      exact ⟨fields, keyed, said, also⟩
    · intro ⟨fields, keyed, said, also⟩
      exact ⟨fields, keyed, _, said, _, also, rfl⟩
  absent := by
    intro found
    cases found
    simp [Says]

theorem readBy_variant :
    ReadBy VariantSettings.ofValue? {} fun find part =>
      Says Key.platform.read? .gles3x (find 0 "platform") part.platform ∧
      Says Key.buildTarget.read? .android (find 1 "build_target") part.buildTarget ∧
      Says Key.versionLine.read? "#version 310 es" (find 2 "version_line") part.versionLine ∧
      Says Key.extension.read? "shader" (find 3 "extension") part.extension ∧
      Says Key.directory.read? none (find 4 "temp_dir") part.directory? where
  present := by
    intro value found
    simp only [VariantSettings.ofValue?, Option.bind_eq_bind, Option.bind_eq_some_iff,
      Configuration.getOr_eq_some_iff, optional_eq_some_iff, Option.pure_def, Option.some.injEq]
    constructor
    · intro ⟨fields, keyed, _, platform, _, buildTarget, _, versionLine, _, extension, _, directory,
        same⟩
      cases same
      exact ⟨fields, keyed, platform, buildTarget, versionLine, extension, directory⟩
    · intro ⟨fields, keyed, platform, buildTarget, versionLine, extension, directory⟩
      exact ⟨fields, keyed, _, platform, _, buildTarget, _, versionLine, _, extension, _, directory,
        rfl⟩
  absent := by
    intro found
    cases found
    simp [Says]

theorem readBy_watch :
    ReadBy WatchSection.ofValue? {} fun find part =>
      Says Key.debounce.read? 200 (find 0 "debounce_ms") part.debounce where
  present := by
    intro value found
    simp only [WatchSection.ofValue?, Option.bind_eq_bind, Option.bind_eq_some_iff,
      Configuration.getOr_eq_some_iff, Option.pure_def, Option.some.injEq]
    constructor
    · intro ⟨fields, keyed, _, debounce, same⟩
      cases same
      exact ⟨fields, keyed, debounce⟩
    · intro ⟨fields, keyed, debounce⟩
      exact ⟨fields, keyed, _, debounce, rfl⟩
  absent := by
    intro found
    cases found
    simp [Says]

theorem forall_key {holds : Key → Prop} :
    (∀ key, holds key) ↔
      (holds .target ∧ holds .customPath) ∧
      (holds .platform ∧ holds .buildTarget ∧ holds .versionLine ∧ holds .extension ∧
        holds .directory) ∧
      holds .debounce := by
  constructor
  · intro all
    exact ⟨⟨all _, all _⟩, ⟨all _, all _, all _, all _, all _⟩, all _⟩
  · intro ⟨⟨target, customPath⟩, ⟨platform, buildTarget, versionLine, extension, directory⟩,
      debounce⟩ key
    cases key <;> assumption

/-- A configuration is what its keys stand for. -/
theorem eq_of_content (same : ∀ key : Key, key.content configuration = key.content newest) :
    configuration = newest := by
  obtain ⟨⟨_, _⟩, ⟨_, _, _, _, _⟩, ⟨_⟩⟩ := configuration
  obtain ⟨⟨_, _⟩, ⟨_, _, _, _, _⟩, ⟨_⟩⟩ := newest
  have parts := forall_key.mp same
  simp only [Key.content] at parts
  simp [parts]

theorem Says.unique {read? : Value → Option α} {usual content other : α} {given? : Option Value}
    (said : Says read? usual given? content) (also : Says read? usual given? other) :
    content = other := by
  unfold Says at said also
  split at said
  · exact Option.some.inj (said.symm.trans also)
  · exact said.trans also.symm

theorem Overrides.unique (overrides : Overrides entries configuration)
    (also : Overrides entries newest) : configuration = newest :=
  eq_of_content fun key => (overrides key).unique (also key)

/-- A document loads key by key. -/
theorem ofTable?_eq_some_iff :
    ofTable? entries = some configuration ↔
      (∀ key : Key, HasKeys entries key.heading) ∧ Overrides entries configuration := by
  simp only [ofTable?, Option.bind_eq_bind, Option.bind_eq_some_iff,
    readBy_compiler.getOr_eq_some_iff, readBy_variant.getOr_eq_some_iff,
    readBy_watch.getOr_eq_some_iff, Option.pure_def, Option.some.injEq]
  constructor
  · intro ⟨_, ⟨inCompiler, compiler⟩, _, ⟨inVariant, variant⟩, _, ⟨inWatch, watch⟩, same⟩
    cases same
    refine ⟨forall_key.mpr ⟨⟨?_, ?_⟩, ⟨?_, ?_, ?_, ?_, ?_⟩, ?_⟩,
      forall_key.mpr ⟨compiler, variant, watch⟩⟩ <;> assumption
  · intro ⟨hasKeys, overrides⟩
    obtain ⟨compiler, variant, watch⟩ := forall_key.mp overrides
    exact ⟨_, ⟨hasKeys .target, compiler⟩, _, ⟨hasKeys .platform, variant⟩, _,
      ⟨hasKeys .debounce, watch⟩, rfl⟩

/-- What a document loads as hangs on nothing but the values of the keys. -/
theorem ofTable?_congr
    (hasKeys : ∀ key : Key, HasKeys more key.heading ↔ HasKeys entries key.heading)
    (same : ∀ key : Key, key.given? more = key.given? entries) :
    ofTable? more = ofTable? entries := by
  ext configuration
  simp only [ofTable?_eq_some_iff, hasKeys, Overrides, same]

/-- What a document becomes by adding sections and keys that a configuration does not know. -/
inductive Padded (entries : List (String × Value)) : List (String × Value) → Prop where
  | nothing : Padded entries entries
  | part {front back : List (String × Value)} {heading : String} {value : Value}
      (padded : Padded entries (front ++ back)) (unknown : ∀ key : Key, key.heading ≠ heading) :
      Padded entries (front ++ (heading, value) :: back)
  | key {front back before after : List (String × Value)} {heading name : String} {value : Value}
      (padded : Padded entries (front ++ (heading, .table (before ++ after)) :: back))
      (unknown : ∀ key : Key, key.heading = heading → key.name ≠ name) :
      Padded entries (front ++ (heading, .table (before ++ (name, value) :: after)) :: back)

theorem lookup_pad {front back : List (String × Value)} {name other : String} {value : Value}
    (apart : name ≠ other) :
    (front ++ (other, value) :: back).lookup name = (front ++ back).lookup name := by
  have differs : (name == other) = false := by simpa using apart
  simp [List.lookup_append, List.lookup_cons, differs]

/-- A section with one more key in it answers every other question as before. -/
theorem find?_pad {front back before after : List (String × Value)}
    {heading other name asked : String} {value : Value} (apart : asked = heading → name ≠ other)
    (place : Nat) :
    find? (front ++ (heading, .table (before ++ (other, value) :: after)) :: back) asked place
        name =
      find? (front ++ (heading, .table (before ++ after)) :: back) asked place name := by
  unfold find?
  rw [List.lookup_append, List.lookup_append]
  cases front.lookup asked with
  | some part => rfl
  | none =>
      by_cases here : asked = heading
      · subst here
        simp [Value.fields?, Fields.get?, lookup_pad (apart rfl)]
      · have differs : (asked == heading) = false := by simpa using here
        simp [List.lookup_cons, differs]

theorem hasKeys_pad {front back fields more : List (String × Value)} {heading asked : String} :
    HasKeys (front ++ (heading, .table more) :: back) asked ↔
      HasKeys (front ++ (heading, .table fields) :: back) asked := by
  unfold HasKeys
  rw [List.lookup_append, List.lookup_append]
  cases front.lookup asked with
  | some part => rfl
  | none =>
      by_cases here : asked = heading
      · subst here
        simp [Value.fields?]
      · have differs : (asked == heading) = false := by simpa using here
        simp [List.lookup_cons, differs]

theorem Padded.ofTable?_eq (padded : Padded entries more) : ofTable? more = ofTable? entries := by
  induction padded with
  | nothing => rfl
  | part padded unknown ih =>
      rw [← ih]
      refine ofTable?_congr (fun key => ?_) (fun key => ?_)
      · rw [HasKeys, HasKeys, lookup_pad (unknown key)]
      · rw [Key.given?, Key.given?, find?, find?, lookup_pad (unknown key)]
  | key padded unknown ih =>
      rw [← ih]
      exact ofTable?_congr (fun key => hasKeys_pad) (fun key => find?_pad (unknown key) key.place)

/-- A document that loads is the usual configuration with the known keys that it has replaced by
what their values say: sections and keys that nobody knows change nothing, and documents agree on
every key that both leave out, for whatever reason each does. -/
theorem ofText?_overrides {text : Text} (decoded : Toml.parse? text = some entries) :
    (∀ configuration, ofText? text = some configuration ↔
      (∀ key : Key, HasKeys entries key.heading) ∧ Overrides entries configuration) ∧
    (∀ more, Padded entries more → ofTable? more = ofText? text) ∧
    (∀ other more configuration newest, Toml.parse? other = some more →
      ofText? text = some configuration → ofText? other = some newest →
        ∀ key : Key, key.given? entries = none → key.given? more = none →
          key.content newest = key.content configuration) := by
  have reads {text : Text} {entries : List (String × Value)}
      (decoded : Toml.parse? text = some entries) : ofText? text = ofTable? entries := by
    rw [ofText?, decoded]
    rfl
  rw [reads decoded]
  refine ⟨fun configuration => ofTable?_eq_some_iff, fun more padded => padded.ofTable?_eq, ?_⟩
  intro other more configuration newest also loaded renewed key without neither
  rw [reads also] at renewed
  have first := (ofTable?_eq_some_iff.mp loaded).2 key
  have second := (ofTable?_eq_some_iff.mp renewed).2 key
  rw [without] at first
  rw [neither] at second
  exact second.trans first.symm

/-- A section with one key, padded and not, and documents without it or without anything in it. -/
theorem ofText?_overrides_partly :
    let text := "[variant]\nplatform = \"gles20\"\n".toList
    let other := "compiler = []\n[variant]\nextension = \"frag\"\n".toList
    let configuration : Configuration := { variant := { platform := .gles20 } }
    let newest : Configuration := { variant := { extension := "frag" } }
    ∃ entries more, Toml.parse? text = some entries ∧ Toml.parse? other = some more ∧
      Overrides entries configuration ∧
      ofTable? (entries ++ [("extra", .boolean true)]) = some configuration ∧
      ∀ key ∈ [Key.target, .versionLine, .debounce],
        key.content newest = key.content configuration := by
  intro text other configuration newest
  have loaded : ofText? text = some configuration := by decide +kernel
  have renewed : ofText? other = some newest := by decide +kernel
  obtain ⟨entries, decoded⟩ := Option.isSome_iff_exists.mp
    (by decide +kernel : (Toml.parse? text).isSome = true)
  obtain ⟨more, also⟩ := Option.isSome_iff_exists.mp
    (by decide +kernel : (Toml.parse? other).isSome = true)
  obtain ⟨loads, pads, agrees⟩ := ofText?_overrides decoded
  refine ⟨entries, more, decoded, also, ((loads configuration).mp loaded).2, ?_, ?_⟩
  · have padded : Padded entries (entries ++ [("extra", .boolean true)]) := by
      refine @Padded.part _ entries [] _ _ ?_ fun key => ?_
      · rw [List.append_nil]
        exact .nothing
      · cases key <;> decide
    rw [pads _ padded, loaded]
  · have silent : ∀ key ∈ [Key.target, .versionLine, .debounce],
        (Toml.parse? text).all (fun entries => (key.given? entries).isNone) = true ∧
        (Toml.parse? other).all (fun entries => (key.given? entries).isNone) = true := by
      decide +kernel
    intro key member
    have neither := silent key member
    rw [decoded, also] at neither
    exact agrees other more configuration newest also loaded renewed key
      (Option.isNone_iff_eq_none.mp neither.1) (Option.isNone_iff_eq_none.mp neither.2)

end ShaderVariants.Configuration
