import ShaderVariants.CommandLine
import ShaderVariants.Proofs.Text.Numeral

/-!
What the arguments of a cycle say.

A `Setting` is said in one argument or in two.  Arguments that spell settings are read as these say,
in whatever order (`cycleArguments_of_spells`); in all others there is a first place where something
`Offends`, and that is what is reported (`exists_reading`, `cycleArguments_of_offends`).
-/
namespace ShaderVariants

/-- A cut around a single character is made at the first one. -/
theorem Text.cut?_char_eq_some_iff {text before after : Text} {c : Char} :
    Text.cut? [c] text = some (before, after) ↔ text = before ++ c :: after ∧ c ∉ before := by
  constructor
  · intro found
    refine ⟨?_, fun member => ?_⟩
    · rw [Text.eq_append_of_cut? found, List.append_assoc, List.singleton_append]
    · obtain ⟨front, back, rfl⟩ := List.append_of_mem member
      exact Text.not_infix_of_cut? (List.cons_ne_nil c []) found ⟨front, back, by simp⟩
  · rintro ⟨rfl, first⟩
    induction before with
    | nil => exact Text.cut?_append [c] after
    | cons d before ih =>
        simp only [List.mem_cons, not_or] at first
        have apart : ¬ [c] <+: d :: (before ++ c :: after) := fun starts =>
          first.1 (List.cons_prefix_cons.mp starts).1
        rw [List.cons_append, Text.cut?_cons apart, ih first.2]
        rfl

namespace CommandLine

inductive Setting where
  | shader (path : Path)
  | pass (index : Nat)
  | select (group option : Nat)
  | compiler (target : CompilerTarget)
deriving DecidableEq, Repr

namespace Setting

def shader? : Setting → Option Path
  | .shader path => some path
  | _ => none

def pass? : Setting → Option Nat
  | .pass index => some index
  | _ => none

def selection? : Setting → Option (Nat × Nat)
  | .select group option => some (group, option)
  | _ => none

def compiler? : Setting → Option CompilerTarget
  | .compiler target => some target
  | _ => none

end Setting

/-- The arguments that name an option. -/
def Switch.names : Switch → List String
  | .pass => ["--pass", "-p"]
  | .select => ["--select", "-s"]
  | .compiler => ["--compiler", "-c"]

/-- What an option says with a value.  Positions are numerals; only a group and a choice in it, which
the first `=` separates, may have blanks around them. -/
inductive Switch.Means : Switch → (value : String) → Setting → Prop where
  | pass {value : String} {index : Nat} (numeral : Text.IsNumeral value.toList index)
      (below : index < indexBound) : Means .pass value (.pass index)
  | select {value : String} {left right : Text} {group option : Nat}
      (parts : value.toList = left ++ '=' :: right) (first : '=' ∉ left)
      (padded_group : Text.IsPadded left group) (group_below : group < indexBound)
      (padded_option : Text.IsPadded right option) (option_below : option < indexBound) :
      Means .select value (.select group option)
  | compiler (value : String) : Means .compiler value (.compiler (CompilerTarget.ofWord value))

/-- The arguments that say one thing.  What stands behind an option is its value, whatever it looks
like. -/
inductive Setting.Spelled : Setting → List String → Prop where
  | shader {argument : String} (positional : argument.toList.head? ≠ some '-') :
      Spelled (.shader ⟨argument⟩) [argument]
  | option {switch : Switch} {name value : String} {setting : Setting}
      (named : name ∈ switch.names) (means : switch.Means value setting) :
      Spelled setting [name, value]

/-- Arguments that say some settings, one after the other. -/
inductive Spells : List Setting → List String → Prop where
  | nil : Spells [] []
  | cons {setting : Setting} {settings : List Setting} {words arguments : List String}
      (first : setting.Spelled words) (later : Spells settings arguments) :
      Spells (setting :: settings) (words ++ arguments)

/-- Arguments that are wrong in the first place behind those of `earlier` settings. -/
inductive Offends (earlier : List Setting) : List String → UsageError → Prop where
  | valueless {switch : Switch} {name : String} (named : name ∈ switch.names) :
      Offends earlier [name] (.missingValue name)
  | refused {switch : Switch} {name value : String} {rest : List String}
      (named : name ∈ switch.names) (refuses : ∀ setting, ¬ switch.Means value setting) :
      Offends earlier (name :: value :: rest) (.invalidValue name value)
  | unknown {argument : String} {rest : List String} (dashed : argument.toList.head? = some '-')
      (unnamed : ∀ switch : Switch, argument ∉ switch.names) :
      Offends earlier (argument :: rest) (.unexpectedArgument argument)
  | second {argument : String} {path : Path} {rest : List String}
      (positional : argument.toList.head? ≠ some '-') (given : .shader path ∈ earlier) :
      Offends earlier (argument :: rest) (.unexpectedArgument argument)

/-- Whether no second shader is given. -/
def Single (settings : List Setting) : Prop :=
  (settings.filterMap Setting.shader?).length ≤ 1

/-- Settings that give exactly the options: one shader, the last pass and the last compiler, and all
choices in order. -/
structure Gives (settings : List Setting) (options : CycleOptions) : Prop where
  shader : settings.filterMap Setting.shader? = [options.shader]
  pass : (settings.filterMap Setting.pass?).getLast? = options.pass?
  selections : settings.filterMap Setting.selection? = options.selections
  compiler : (settings.filterMap Setting.compiler?).getLast? = options.compiler?

def Draft.ofSettings (settings : List Setting) : Draft where
  shader? := (settings.filterMap Setting.shader?).getLast?
  pass? := (settings.filterMap Setting.pass?).getLast?
  selections := settings.filterMap Setting.selection?
  compiler? := (settings.filterMap Setting.compiler?).getLast?

/-- What comes of the settings: a second shader is one too many. -/
def outcome (settings : List Setting) : Except UsageError CycleOptions :=
  match settings.filterMap Setting.shader? with
  | [] => .error .missingShader
  | [shader] =>
      let draft := Draft.ofSettings settings
      .ok ⟨shader, draft.pass?, draft.selections, draft.compiler?⟩
  | _ :: second :: _ => .error (.unexpectedArgument second.text)

variable {switch : Switch} {setting : Setting} {settings earlier : List Setting}
  {argument name value : String} {arguments words front rest : List String} {draft : Draft}
  {error : UsageError}

theorem ofArgument?_eq_some_iff : Switch.ofArgument? name = some switch ↔ name ∈ switch.names := by
  unfold Switch.ofArgument?
  cases switch <;> simp only [Switch.names, List.mem_cons, List.not_mem_nil, or_false] <;>
    split <;> grind

theorem head?_of_named (named : name ∈ switch.names) : name.toList.head? = some '-' := by
  have dashed : ∀ name ∈ switch.names, name.toList.head? = some '-' := by
    cases switch <;> decide
  exact dashed name named

theorem filterMap_concat {α : Type} (read? : Setting → Option α) (earlier : List Setting)
    (setting : Setting) :
    (earlier ++ [setting]).filterMap read? = earlier.filterMap read? ++ (read? setting).toList := by
  rw [List.filterMap_append]
  cases found : read? setting with
  | none => rw [List.filterMap_cons_none found]; rfl
  | some value => rw [List.filterMap_cons_some found]; rfl

theorem ofSettings_concat (earlier : List Setting) (setting : Setting) :
    Draft.ofSettings (earlier ++ [setting]) =
      ⟨setting.shader?.or (Draft.ofSettings earlier).shader?,
        setting.pass?.or (Draft.ofSettings earlier).pass?,
        (Draft.ofSettings earlier).selections ++ setting.selection?.toList,
        setting.compiler?.or (Draft.ofSettings earlier).compiler?⟩ := by
  simp only [Draft.ofSettings, filterMap_concat, List.getLast?_append]
  cases setting <;> rfl

theorem selection_cases (name value : String) :
    (∃ group option, Switch.select.Means value (.select group option)) ∨
      selection name value = .error (.invalidValue name value) := by
  unfold selection
  dsimp only
  split
  · next chosen found =>
      simp only [Option.bind_eq_bind, Option.bind_eq_some_iff, Option.pure_def] at found
      obtain ⟨⟨left, right⟩, cut, group, read_group, option, read_option, -⟩ := found
      obtain ⟨parts, first⟩ := Text.cut?_char_eq_some_iff.mp cut
      obtain ⟨padded_group, group_below⟩ := Text.unsigned?_trim_eq_some_iff.mp read_group
      obtain ⟨padded_option, option_below⟩ := Text.unsigned?_trim_eq_some_iff.mp read_option
      exact .inl ⟨group, option,
        .select parts first padded_group group_below padded_option option_below⟩
  · exact .inr rfl

theorem apply_of_means (means : switch.Means value setting) (name : String) :
    (Draft.ofSettings earlier).apply switch name value =
      .ok (.ofSettings (earlier ++ [setting])) := by
  rw [ofSettings_concat]
  cases means with
  | pass numeral below =>
      have read := Text.unsigned?_eq_some_iff.mpr ⟨numeral, below⟩
      simp [Draft.apply, index, read, Except.map, Setting.shader?, Setting.pass?,
        Setting.selection?, Setting.compiler?]
  | select parts first padded_group group_below padded_option option_below =>
      have cut := Text.cut?_char_eq_some_iff.mpr ⟨parts, first⟩
      have read_group := Text.unsigned?_trim_eq_some_iff.mpr ⟨padded_group, group_below⟩
      have read_option := Text.unsigned?_trim_eq_some_iff.mpr ⟨padded_option, option_below⟩
      simp [Draft.apply, selection, cut, read_group, read_option, Except.map, Setting.shader?,
        Setting.pass?, Setting.selection?, Setting.compiler?]
  | compiler =>
      simp [Draft.apply, Setting.shader?, Setting.pass?, Setting.selection?, Setting.compiler?]

theorem apply_of_refused (refuses : ∀ setting, ¬ switch.Means value setting) (name : String) :
    draft.apply switch name value = .error (.invalidValue name value) := by
  cases switch with
  | pass =>
      cases read : Text.unsigned? indexBound value.toList with
      | none => simp only [Draft.apply, index, read, Except.map]
      | some position =>
          obtain ⟨numeral, below⟩ := Text.unsigned?_eq_some_iff.mp read
          exact absurd (.pass numeral below) (refuses _)
  | select =>
      rcases selection_cases name value with ⟨group, option, means⟩ | refused
      · exact absurd means (refuses _)
      · simp only [Draft.apply, refused, Except.map]
  | compiler => exact absurd (.compiler value) (refuses _)

theorem shader?_of_means (means : switch.Means value setting) : setting.shader? = none := by
  cases means <;> rfl

theorem ofArgument?_of_unnamed (unnamed : ∀ switch : Switch, argument ∉ switch.names) :
    Switch.ofArgument? argument = none := by
  cases found : Switch.ofArgument? argument with
  | none => rfl
  | some switch => exact absurd (ofArgument?_eq_some_iff.mp found) (unnamed switch)

theorem unnamed_of_positional (positional : argument.toList.head? ≠ some '-') (switch : Switch) :
    argument ∉ switch.names :=
  mt head?_of_named positional

theorem mem_filterMap_shader? {path : Path} :
    path ∈ settings.filterMap Setting.shader? ↔ .shader path ∈ settings := by
  rw [List.mem_filterMap]
  constructor
  · rintro ⟨setting, member, given⟩
    cases setting <;> cases given
    exact member
  · exact fun member => ⟨.shader path, member, rfl⟩

theorem isSome_shader?_ofSettings :
    (Draft.ofSettings earlier).shader?.isSome = true ↔ ∃ path, .shader path ∈ earlier := by
  simp only [Draft.ofSettings, List.getLast?_isSome, ← mem_filterMap_shader?]
  exact ⟨List.exists_mem_of_ne_nil _, fun ⟨path, member⟩ => List.ne_nil_of_mem member⟩

theorem cycleArguments_spelled (spelled : setting.Spelled words) (rest : List String)
    (single : setting.shader? = none ∨ earlier.filterMap Setting.shader? = []) :
    cycleArguments (.ofSettings earlier) (words ++ rest) =
      cycleArguments (.ofSettings (earlier ++ [setting])) rest := by
  cases spelled with
  | @shader argument positional =>
      have unnamed := ofArgument?_of_unnamed (unnamed_of_positional positional)
      have first : earlier.filterMap Setting.shader? = [] :=
        single.resolve_left (by simp [Setting.shader?])
      have untaken : (Draft.ofSettings earlier).shader? = none := by
        rw [Draft.ofSettings, first]
        rfl
      rw [ofSettings_concat]
      simp [cycleArguments, unnamed, positional, untaken, Setting.shader?, Setting.pass?,
        Setting.selection?, Setting.compiler?]
  | @option switch name value setting named means =>
      have found := ofArgument?_eq_some_iff.mpr named
      simp only [List.cons_append, List.nil_append, cycleArguments, found,
        apply_of_means means name]

theorem cycleArguments_of_offends (offends : Offends earlier arguments error) :
    cycleArguments (.ofSettings earlier) arguments = .error error := by
  cases offends with
  | valueless named =>
      simp only [cycleArguments, ofArgument?_eq_some_iff.mpr named]
  | refused named refuses =>
      simp only [cycleArguments, ofArgument?_eq_some_iff.mpr named, apply_of_refused refuses]
  | unknown dashed unnamed =>
      simp only [cycleArguments, ofArgument?_of_unnamed unnamed, dashed, decide_true, Bool.true_or,
        if_true]
  | @second argument path rest positional given =>
      have unnamed := ofArgument?_of_unnamed (unnamed_of_positional positional)
      have taken := isSome_shader?_ofSettings.mpr ⟨path, given⟩
      simp only [cycleArguments, unnamed, taken, Bool.or_true, if_true]

theorem single_cases (single : Single settings) :
    settings.filterMap Setting.shader? = [] ∨
      ∃ shader, settings.filterMap Setting.shader? = [shader] := by
  unfold Single at single
  cases given : settings.filterMap Setting.shader? with
  | nil => exact .inl rfl
  | cons shader others =>
      rw [given, List.length_cons] at single
      rw [List.eq_nil_of_length_eq_zero (by omega : others.length = 0)]
      exact .inr ⟨shader, rfl⟩

theorem outcome_second {first second : Path} (single : Single earlier)
    (given : .shader first ∈ earlier) (settings : List Setting) :
    outcome (earlier ++ .shader second :: settings) =
      .error (.unexpectedArgument second.text) := by
  have member := mem_filterMap_shader?.mpr given
  have behind : (Setting.shader second :: settings).filterMap Setting.shader? =
      second :: settings.filterMap Setting.shader? := rfl
  rw [outcome, List.filterMap_append, behind]
  rcases single_cases single with none_given | ⟨shader, only⟩
  · rw [none_given] at member
    cases member
  · rw [only]
    rfl

theorem single_concat (single : Single earlier)
    (free : setting.shader? = none ∨ earlier.filterMap Setting.shader? = []) :
    Single (earlier ++ [setting]) := by
  unfold Single at single ⊢
  rw [filterMap_concat]
  rcases free with plain | first
  · simpa [plain] using single
  · cases setting.shader? <;> simp [first]

theorem cycleArguments_of_spells (spells : Spells settings arguments) (single : Single earlier) :
    cycleArguments (.ofSettings earlier) arguments = outcome (earlier ++ settings) := by
  induction spells generalizing earlier with
  | nil =>
      rw [List.append_nil, cycleArguments, outcome, Draft.ofSettings]
      rcases single_cases single with given | ⟨shader, given⟩ <;> rw [given] <;> rfl
  | @cons setting settings words arguments first later ih =>
      by_cases free : setting.shader? = none ∨ earlier.filterMap Setting.shader? = []
      · rw [cycleArguments_spelled first arguments free, ih (single_concat single free),
          List.append_assoc, List.singleton_append]
      · rw [not_or] at free
        cases first with
        | option named means => exact absurd (shader?_of_means means) free.1
        | @shader argument positional =>
            -- A second shader is where the reading ends, whatever is said behind it.
            obtain ⟨path, member⟩ := List.exists_mem_of_ne_nil _ free.2
            have given := mem_filterMap_shader?.mp member
            rw [outcome_second single given]
            exact cycleArguments_of_offends (.second positional given)

theorem cycleArguments_append (spells : Spells settings front)
    (single : Single (earlier ++ settings)) (rest : List String) :
    cycleArguments (.ofSettings earlier) (front ++ rest) =
      cycleArguments (.ofSettings (earlier ++ settings)) rest := by
  induction spells generalizing earlier with
  | nil => rw [List.append_nil, List.nil_append]
  | @cons setting settings words arguments first later ih =>
      rw [← List.singleton_append, ← List.append_assoc] at single ⊢
      have free : setting.shader? = none ∨ earlier.filterMap Setting.shader? = [] := by
        unfold Single at single
        rw [List.filterMap_append, filterMap_concat] at single
        cases given : setting.shader? with
        | none => exact .inl rfl
        | some path =>
            refine .inr (List.eq_nil_of_length_eq_zero ?_)
            simp only [given, Option.toList_some, List.length_append, List.length_singleton]
              at single
            omega
      rw [List.append_assoc, cycleArguments_spelled first _ free, ih single]

/-- How arguments are read behind those of `earlier` settings: to their end, or up to the first place
where something offends. -/
structure Reading (earlier : List Setting) (arguments : List String) (settings : List Setting)
    (front rest : List String) : Prop where
  parts : arguments = front ++ rest
  spells : Spells settings front
  single : Single (earlier ++ settings)
  ended : rest = [] ∨ ∃ error, Offends (earlier ++ settings) rest error

theorem Reading.here (single : Single earlier)
    (ended : rest = [] ∨ ∃ error, Offends earlier rest error) : Reading earlier rest [] [] rest := by
  rw [← List.append_nil earlier] at single ended
  exact ⟨rfl, .nil, single, ended⟩

theorem Reading.cons (first : setting.Spelled words)
    (later : Reading (earlier ++ [setting]) arguments settings front rest) :
    Reading earlier (words ++ arguments) (setting :: settings) (words ++ front) rest := by
  have assoc : earlier ++ [setting] ++ settings = earlier ++ setting :: settings := by
    rw [List.append_assoc, List.singleton_append]
  obtain ⟨rfl, spells, single, ended⟩ := later
  rw [assoc] at single ended
  exact ⟨(List.append_assoc words front rest).symm, .cons first spells, single, ended⟩

theorem exists_reading {earlier : List Setting} (single : Single earlier)
    (arguments : List String) :
    ∃ settings front rest, Reading earlier arguments settings front rest := by
  -- One setting takes one argument or two, so the recursion is on the length.
  match arguments with
  | [] => exact ⟨[], [], [], .here single (.inl rfl)⟩
  | argument :: arguments =>
      by_cases named : ∃ switch : Switch, argument ∈ switch.names
      · obtain ⟨switch, named⟩ := named
        cases arguments with
        | nil => exact ⟨[], [], _, .here single (.inr ⟨_, .valueless named⟩)⟩
        | cons value arguments =>
            by_cases meaning : ∃ setting, switch.Means value setting
            · obtain ⟨setting, means⟩ := meaning
              have still := single_concat single (.inl (shader?_of_means means))
              obtain ⟨settings, front, rest, later⟩ := exists_reading still arguments
              exact ⟨_, _, _, later.cons (.option named means)⟩
            · rw [not_exists] at meaning
              exact ⟨[], [], _, .here single (.inr ⟨_, .refused named meaning⟩)⟩
      · rw [not_exists] at named
        by_cases dashed : argument.toList.head? = some '-'
        · exact ⟨[], [], _, .here single (.inr ⟨_, .unknown dashed named⟩)⟩
        · by_cases first : earlier.filterMap Setting.shader? = []
          · have still : Single (earlier ++ [.shader ⟨argument⟩]) :=
              single_concat single (.inr first)
            obtain ⟨settings, front, rest, later⟩ := exists_reading still arguments
            exact ⟨_, _, _, later.cons (.shader dashed)⟩
          · obtain ⟨path, member⟩ := List.exists_mem_of_ne_nil _ first
            have given := mem_filterMap_shader?.mp member
            exact ⟨[], [], _, .here single (.inr ⟨_, .second dashed given⟩)⟩
termination_by arguments.length

theorem outcome_eq_ok_iff {options : CycleOptions} :
    outcome settings = .ok options ↔ Gives settings options := by
  unfold outcome
  split
  · next none_given =>
      refine ⟨nofun, fun gives => ?_⟩
      cases none_given.symm.trans gives.shader
  · next shader given =>
      constructor
      · intro accepted
        cases accepted
        exact ⟨given, rfl, rfl, rfl⟩
      · rintro ⟨same, pass, selections, compiler⟩
        rw [given, List.singleton_inj] at same
        rw [Draft.ofSettings, same, pass, selections, compiler]
  · next given =>
      refine ⟨nofun, fun gives => ?_⟩
      cases given.symm.trans gives.shader

theorem outcome_eq_error_iff (single : Single settings) :
    outcome settings = .error error ↔
      error = .missingShader ∧ settings.filterMap Setting.shader? = [] := by
  unfold outcome
  rcases single_cases single with none_given | ⟨shader, only⟩
  · rw [none_given]
    simp only [Except.error.injEq, and_true]
    exact eq_comm
  · rw [only]
    simp

/-- Settings spelled in whatever order are read alike if the order within each kind is the same. -/
theorem outcome_congr {others : List Setting}
    (shaders : others.filterMap Setting.shader? = settings.filterMap Setting.shader?)
    (passes : others.filterMap Setting.pass? = settings.filterMap Setting.pass?)
    (selections : others.filterMap Setting.selection? = settings.filterMap Setting.selection?)
    (compilers : others.filterMap Setting.compiler? = settings.filterMap Setting.compiler?) :
    outcome others = outcome settings := by
  simp only [outcome, Draft.ofSettings, shaders, passes, selections, compilers]

theorem single_nil : Single [] := Nat.zero_le 1

theorem ofSettings_nil : Draft.ofSettings [] = {} := rfl

theorem cycleArguments_eq_outcome (spells : Spells settings arguments) :
    cycleArguments {} arguments = outcome settings := by
  rw [← ofSettings_nil, cycleArguments_of_spells spells single_nil, List.nil_append]

theorem cycleArguments_eq_error (spells : Spells settings front) (single : Single settings)
    (offends : Offends settings rest error) :
    cycleArguments {} (front ++ rest) = .error error := by
  have single_behind : Single ([] ++ settings) := single
  rw [← ofSettings_nil, cycleArguments_append spells single_behind, List.nil_append,
    cycleArguments_of_offends offends]

theorem cycleArguments_eq_ok_iff {options : CycleOptions} :
    cycleArguments {} arguments = .ok options ↔
      ∃ settings, Spells settings arguments ∧ Gives settings options := by
  constructor
  · intro accepted
    obtain ⟨settings, front, rest, rfl, spells, single, ended⟩ := exists_reading single_nil arguments
    rcases ended with rfl | ⟨error, offends⟩
    · rw [List.append_nil] at accepted ⊢
      rw [cycleArguments_eq_outcome spells] at accepted
      exact ⟨settings, spells, outcome_eq_ok_iff.mp accepted⟩
    · rw [cycleArguments_eq_error spells single offends] at accepted
      cases accepted
  · rintro ⟨settings, spells, gives⟩
    rw [cycleArguments_eq_outcome spells, outcome_eq_ok_iff.mpr gives]

theorem cycleArguments_eq_error_iff :
    cycleArguments {} arguments = .error error ↔
      (∃ settings front rest, arguments = front ++ rest ∧ Spells settings front ∧
        Single settings ∧ Offends settings rest error) ∨
      error = .missingShader ∧
        ∃ settings, Spells settings arguments ∧ settings.filterMap Setting.shader? = [] := by
  constructor
  · intro refused
    obtain ⟨settings, front, rest, rfl, spells, single, ended⟩ := exists_reading single_nil arguments
    rcases ended with rfl | ⟨first, offends⟩
    · rw [List.append_nil] at refused ⊢
      rw [cycleArguments_eq_outcome spells] at refused
      obtain ⟨missing, none_given⟩ := (outcome_eq_error_iff single).mp refused
      exact .inr ⟨missing, settings, spells, none_given⟩
    · rw [cycleArguments_eq_error spells single offends] at refused
      cases refused
      exact .inl ⟨settings, front, rest, rfl, spells, single, offends⟩
  · rintro (⟨settings, front, rest, rfl, spells, single, offends⟩ |
      ⟨rfl, settings, spells, none_given⟩)
    · exact cycleArguments_eq_error spells single offends
    · rw [cycleArguments_eq_outcome spells, outcome, none_given]

/-- The arguments of a cycle are accepted exactly when they give a shader, a number of passes,
choices and compilers, in any order, and nothing else; the last pass, all choices in order and the
last compiler count, so only the order within each kind matters.  All other arguments are refused
because of the first place where something offends; a shader is missed only where nothing does. -/
theorem parse_cycle (arguments : List String) :
    ∀ entry ∈ [("report", Invocation.report), ("watch", Invocation.watch)],
      (∀ invocation, parse (entry.1 :: arguments) = .ok invocation ↔
        ∃ settings options, Spells settings arguments ∧ Gives settings options ∧
          invocation = entry.2 options) ∧
      (∀ error, parse (entry.1 :: arguments) = .error error ↔
        (∃ settings front rest, arguments = front ++ rest ∧ Spells settings front ∧
          Single settings ∧ Offends settings rest error) ∨
        error = .missingShader ∧
          ∃ settings, Spells settings arguments ∧ settings.filterMap Setting.shader? = []) ∧
      ∀ settings others reordered, Spells settings arguments → Spells others reordered →
        others.filterMap Setting.shader? = settings.filterMap Setting.shader? →
        others.filterMap Setting.pass? = settings.filterMap Setting.pass? →
        others.filterMap Setting.selection? = settings.filterMap Setting.selection? →
        others.filterMap Setting.compiler? = settings.filterMap Setting.compiler? →
        parse (entry.1 :: reordered) = parse (entry.1 :: arguments) := by
  intro entry member
  have parsed (arguments : List String) :
      parse (entry.1 :: arguments) = (cycleArguments {} arguments).map entry.2 := by
    simp only [List.mem_cons, List.not_mem_nil, or_false] at member
    rcases member with rfl | rfl <;> rfl
  simp only [parsed]
  refine ⟨fun invocation => ?_, fun error => ?_, ?_⟩
  · constructor
    · intro accepted
      cases read : cycleArguments {} arguments with
      | error error =>
          rw [read] at accepted
          cases accepted
      | ok options =>
          rw [read] at accepted
          cases accepted
          obtain ⟨settings, spells, gives⟩ := cycleArguments_eq_ok_iff.mp read
          exact ⟨settings, options, spells, gives, rfl⟩
    · rintro ⟨settings, options, spells, gives, rfl⟩
      rw [cycleArguments_eq_ok_iff.mpr ⟨settings, spells, gives⟩]
      rfl
  · rw [← cycleArguments_eq_error_iff]
    cases cycleArguments {} arguments <;> simp [Except.map]
  · intro settings others reordered spells other_spells shaders passes selections compilers
    rw [cycleArguments_eq_outcome spells, cycleArguments_eq_outcome other_spells,
      outcome_congr shaders passes selections compilers]

theorem parse_cycle_reordered :
    let arguments := ["-s", " 1 = +2", "lit.toml", "--pass", "3", "-c", "--pass", "-p", "007"]
    let reordered := ["--pass", "3", "-p", "007", "lit.toml", "-c", "--pass", "-s", " 1 = +2"]
    parse ("report" :: arguments) =
        .ok (.report ⟨⟨"lit.toml"⟩, some 7, [(1, 2)], some (.custom ⟨"--pass"⟩)⟩) ∧
      parse ("report" :: reordered) = parse ("report" :: arguments) ∧
      parse ["watch", "-p", "1", "-p", " 1", "--select"] = .error (.invalidValue "-p" " 1") := by
  intro arguments reordered
  obtain ⟨accepts, -, reorders⟩ := parse_cycle arguments ("report", .report) (by simp)
  obtain ⟨-, refuses, -⟩ :=
    parse_cycle ["-p", "1", "-p", " 1", "--select"] ("watch", .watch) (by simp)
  have position {value : String} {index : Nat}
      (read : Text.unsigned? indexBound value.toList = some index) :
      Switch.pass.Means value (.pass index) := by
    obtain ⟨numeral, below⟩ := Text.unsigned?_eq_some_iff.mp read
    exact .pass numeral below
  have three : (Setting.pass 3).Spelled ["--pass", "3"] :=
    .option (by decide : "--pass" ∈ Switch.pass.names) (position (by decide))
  have seven : (Setting.pass 7).Spelled ["-p", "007"] :=
    .option (by decide : "-p" ∈ Switch.pass.names) (position (by decide))
  have lit : (Setting.shader ⟨"lit.toml"⟩).Spelled ["lit.toml"] := .shader (by decide)
  have compiler : (Setting.compiler (.ofWord "--pass")).Spelled ["-c", "--pass"] :=
    .option (by decide : "-c" ∈ Switch.compiler.names) (.compiler _)
  have choice : (Setting.select 1 2).Spelled ["-s", " 1 = +2"] := by
    have group : Text.unsigned? indexBound (Text.trim " 1 ".toList) = some 1 := by decide
    have option : Text.unsigned? indexBound (Text.trim " +2".toList) = some 2 := by decide
    obtain ⟨padded_group, group_below⟩ := Text.unsigned?_trim_eq_some_iff.mp group
    obtain ⟨padded_option, option_below⟩ := Text.unsigned?_trim_eq_some_iff.mp option
    exact .option (by decide : "-s" ∈ Switch.select.names) (.select (by decide)
      (by decide) padded_group group_below padded_option option_below)
  have spells := Spells.cons choice (.cons lit (.cons three (.cons compiler (.cons seven .nil))))
  have respelled := Spells.cons three (.cons seven (.cons lit (.cons compiler (.cons choice .nil))))
  have one : (Setting.pass 1).Spelled ["-p", "1"] :=
    .option (by decide : "-p" ∈ Switch.pass.names) (position (by decide))
  have refused : ∀ setting, ¬ Switch.pass.Means " 1" setting := by
    rintro setting ⟨numeral, below⟩
    have unread : Text.unsigned? indexBound " 1".toList = none := by decide
    cases unread.symm.trans (Text.unsigned?_eq_some_iff.mpr ⟨numeral, below⟩)
  have offends : Offends [.pass 1] ["-p", " 1", "--select"] (.invalidValue "-p" " 1") :=
    .refused (by decide : "-p" ∈ Switch.pass.names) refused
  refine ⟨(accepts _).mpr ⟨_, ⟨⟨"lit.toml"⟩, some 7, [(1, 2)], some (.custom ⟨"--pass"⟩)⟩, spells,
    ⟨rfl, rfl, rfl, by decide⟩, rfl⟩, ?_, ?_⟩
  · exact reorders _ _ _ spells respelled rfl rfl rfl rfl
  · exact (refuses _).mpr (.inl ⟨_, _, _, rfl, .cons one .nil, Nat.le_succ 0, offends⟩)

end CommandLine

end ShaderVariants
