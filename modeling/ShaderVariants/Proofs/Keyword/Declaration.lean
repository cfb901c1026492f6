import ShaderVariants.Proofs.Keyword.Index
import ShaderVariants.Proofs.Keyword.Vocabulary
import ShaderVariants.Proofs.Text.Words

/-!
What a directive line declares.

`Carries` states what stands on the line: in front of its first `//`, a word that names a family and
other words after it.  `ofLine?_declares` says that the line declares a group exactly if there is
at least one word after the first, which group that is, and what it adds to the vocabulary.
-/
namespace ShaderVariants.Keyword

open Text
open Comment (lineMarker)

variable {line code word : Text} {words tokens : List Text} {family : Family} {group : Group}
  {known : Vocabulary}

/-- What stands on a line in front of its first `//`, or all of the line when there is none. -/
inductive Uncommented : (line code : Text) → Prop where
  | whole {line : Text} (absent : ¬ lineMarker <:+: line) : Uncommented line line
  | cut {code said : Text} (first : ¬ lineMarker <:+: code ++ ['/']) :
      Uncommented (code ++ (lineMarker ++ said)) code

theorem upTo_of_starts (starts : lineMarker <+: line) : upTo lineMarker line = [] := by
  obtain ⟨said, rfl⟩ := starts
  rw [upTo, cut?_append]

theorem upTo_cons {c : Char} (apart : ¬ lineMarker <+: c :: line) :
    upTo lineMarker (c :: line) = c :: upTo lineMarker line := by
  rw [upTo, cut?_cons apart, upTo]
  cases cut? lineMarker line <;> rfl

theorem uncommented_upTo (line : Text) : Uncommented line (upTo lineMarker line) := by
  induction line with
  | nil => exact .whole (by decide)
  | cons c line ih =>
      by_cases starts : lineMarker <+: c :: line
      · rw [upTo_of_starts starts]
        obtain ⟨said, whole⟩ := starts
        rw [← whole]
        exact @Uncommented.cut [] said (by decide)
      · rw [upTo_cons starts]
        generalize upTo lineMarker line = code at ih
        cases ih with
        | whole absent =>
            exact .whole fun inside => (List.infix_cons_iff.mp inside).elim starts absent
        | @cut code said first =>
            refine @Uncommented.cut (c :: code) said fun inside => ?_
            refine (List.infix_cons_iff.mp inside).elim (fun here => ?_) first
            exact starts (here.trans ⟨'/' :: said, by simp [lineMarker]⟩)

theorem uncommented_iff : Uncommented line code ↔ code = upTo lineMarker line := by
  constructor
  · intro uncommented
    cases uncommented with
    | whole absent => rw [upTo, cut?_eq_none_iff.mpr absent]
    | @cut code said first =>
        induction code with
        | nil => exact (upTo_of_starts (List.prefix_append lineMarker said)).symm
        | cons c code ih =>
            rw [List.cons_append, List.infix_cons_iff, not_or] at first
            rw [List.cons_append, upTo_cons, ← ih first.2]
            intro starts
            have front : c :: (code ++ ['/']) <+: c :: (code ++ (lineMarker ++ said)) :=
              ⟨'/' :: said, by simp [lineMarker]⟩
            have room : lineMarker.length ≤ (c :: (code ++ ['/'])).length := by
              simp [lineMarker]
            exact first.1 (List.prefix_of_prefix_length_le starts front room)
  · rintro rfl
    exact uncommented_upTo line

/-- Whether a word is the keyword of the family, alone or with an underscore and anything behind
it. -/
def Names (family : Family) (word : Text) : Prop :=
  word = family.keyword.toList ∨ ∃ rest, word = family.keyword.toList ++ '_' :: rest

theorem claims_iff : family.claims word = true ↔ Names family word := by
  unfold Family.claims Names
  constructor
  · intro claimed
    cases found : after? family.keyword.toList word with
    | none => simp [found] at claimed
    | some rest =>
        have whole := eq_append_of_after? found
        cases rest with
        | nil => exact .inl (whole.trans (List.append_nil _))
        | cons c rest =>
            have underscore : c = '_' := by simpa [found] using claimed
            exact .inr ⟨rest, underscore ▸ whole⟩
  · rintro (rfl | ⟨rest, rfl⟩)
    · have alone := after?_append family.keyword.toList []
      rw [List.append_nil] at alone
      rw [alone]
    · rw [after?_append]
      rfl

/-- No word names two families, since their keywords begin differently. -/
theorem Names.unique {other : Family} (names : Names family word) (again : Names other word) :
    family = other := by
  have first {family : Family} (names : Names family word) :
      word.head? = family.keyword.toList.head? := by
    rcases names with rfl | ⟨rest, rfl⟩ <;> cases family <;> rfl
  have same := (first names).symm.trans (first again)
  cases family <;> cases other <;> first | rfl | cases same

theorem ofWord?_eq_some_iff : Family.ofWord? word = some family ↔ Names family word := by
  have named {family : Family} (found : Family.ofWord? word = some family) : Names family word := by
    rw [Family.ofWord?] at found
    have claimed := List.find?_some found
    exact claims_iff.mp claimed
  constructor
  · exact named
  · intro names
    cases found : Family.ofWord? word with
    | none =>
        have unclaimed := List.find?_eq_none.mp found family (by cases family <;> decide)
        exact absurd (claims_iff.mpr names) unclaimed
    | some other => rw [(named found).unique names]

theorem ofWord?_eq_none_iff : Family.ofWord? word = none ↔ ∀ family, ¬ Names family word := by
  simp only [Option.eq_none_iff_forall_ne_some, ne_eq, ofWord?_eq_some_iff]

theorem declaration?_eq_some_iff :
    declaration? words = some (family, tokens) ↔
      ∃ before word, words = before ++ word :: tokens ∧
        (∀ other ∈ before, ∀ family, ¬ Names family other) ∧ Names family word := by
  induction words with
  | nil => simp [declaration?]
  | cons first rest ih =>
      rw [declaration?]
      cases named : Family.ofWord? first with
      | some other =>
          have names := ofWord?_eq_some_iff.mp named
          constructor
          · rintro ⟨⟩
            exact ⟨[], first, rfl, by simp, names⟩
          · rintro ⟨before, word, split, unnamed, again⟩
            cases before with
            | nil =>
                cases split
                rw [names.unique again]
            | cons _ before =>
                cases split
                exact absurd names (unnamed first List.mem_cons_self other)
      | none =>
          have silent := ofWord?_eq_none_iff.mp named
          show declaration? rest = some (family, tokens) ↔ _
          rw [ih]
          constructor
          · rintro ⟨before, word, rfl, unnamed, names⟩
            exact ⟨first :: before, word, rfl, List.forall_mem_cons.mpr ⟨silent, unnamed⟩, names⟩
          · rintro ⟨before, word, split, unnamed, names⟩
            cases before with
            | nil =>
                cases split
                exact absurd names (silent family)
            | cons _ before =>
                cases split
                exact ⟨before, word, rfl, (List.forall_mem_cons.mp unnamed).2, names⟩

/-- In front of its first `//` the line names a family, and `tokens` are the words behind the first
one that does. -/
def Carries (line : Text) (family : Family) (tokens : List Text) : Prop :=
  ∃ code before word, Uncommented line code ∧ Spaced code (before ++ word :: tokens) ∧
    (∀ other ∈ before, ∀ family, ¬ Names family other) ∧ Names family word

theorem carries_iff :
    Carries line family tokens ↔
      declaration? (Text.words (upTo lineMarker line)) = some (family, tokens) := by
  simp only [Carries, uncommented_iff, spaced_iff, declaration?_eq_some_iff]
  constructor
  · rintro ⟨-, before, word, rfl, split, unnamed, names⟩
    exact ⟨before, word, split.symm, unnamed, names⟩
  · rintro ⟨before, word, split, unnamed, names⟩
    exact ⟨_, before, word, rfl, split.symm, unnamed, names⟩

theorem recorded_eq_foldl (tokens : List Text) (known : Vocabulary) :
    recorded tokens known = (tokens.map optionOf).foldl Vocabulary.insert known := by
  have step : (fun (known : Vocabulary) token =>
      if token = emptyToken then known else known.insert (String.ofList token)) =
        fun known token => known.insert (optionOf token) := by
    funext known token
    rw [optionOf]
    split
    · exact known.insert_nothing.symm
    · rfl
  rw [recorded, step, List.foldl_map]

theorem declaredOptions_eq (family : Family) (tokens : List Text) :
    declaredOptions family tokens =
      (if family = .shaderFeature ∧ tokens.length = 1 ∧ tokens ≠ [emptyToken] then [""] else []) ++
        tokens.map optionOf := by
  unfold declaredOptions
  split
  · next token =>
      by_cases empty : token = emptyToken <;> simp [empty]
  · next apart =>
      rw [if_neg, List.nil_append]
      rintro ⟨rfl, alone, -⟩
      obtain ⟨token, rfl⟩ := List.length_eq_one_iff.mp alone
      exact apart token rfl rfl

/-- The words recorded from a line are its options. -/
theorem foldl_declaredOptions (family : Family) (tokens : List Text) (known : Vocabulary) :
    (declaredOptions family tokens).foldl Vocabulary.insert known = recorded tokens known := by
  rw [declaredOptions_eq, List.foldl_append, recorded_eq_foldl]
  split
  · rw [List.foldl_cons, List.foldl_nil, known.insert_nothing]
  · rfl

theorem ofLine?_of_carries (known : Vocabulary) (carried : Carries line family tokens)
    (some_token : tokens ≠ []) :
    ∃ group, Group.ofLine? line known = (some group, group.options.foldl Vocabulary.insert known) ∧
      group.family = family ∧ group.options = declaredOptions family tokens := by
  have some_option := declaredOptions_ne_nil family some_token
  refine ⟨⟨family, _, some_option⟩, ?_, rfl, rfl⟩
  rw [Group.ofLine?, carries_iff.mp carried]
  cases tokens with
  | nil => exact absurd rfl some_token
  | cons token tokens =>
      dsimp only
      rw [Group.of?, dif_pos some_option, foldl_declaredOptions]

theorem ofLine?_of_silent (silent : ¬ ∃ family tokens, Carries line family tokens ∧ tokens ≠ []) :
    Group.ofLine? line known = (none, known) := by
  rw [Group.ofLine?]
  split
  · rfl
  · rfl
  · next family token tokens declared =>
      exact absurd ⟨family, token :: tokens, carries_iff.mpr declared, List.cons_ne_nil _ _⟩ silent

/-- The words recorded from the lines are the options of the groups they declare. -/
theorem foldl_groupsOfLines (lines : List Text) (known : Vocabulary) :
    ((groupsOfLines known lines).1.flatMap (·.options)).foldl Vocabulary.insert known =
      (groupsOfLines known lines).2 := by
  induction lines generalizing known with
  | nil => rfl
  | cons line rest ih =>
      rcases Group.ofLine?_cases line with silent | ⟨family, tokens, group, options, -, declares⟩
      · simp only [groupsOfLines, silent]
        exact ih known
      · simp only [groupsOfLines, declares, Option.toList_some, List.singleton_append,
          List.flatMap_cons, List.foldl_append, options, foldl_declaredOptions]
        exact ih _

/-- A line declares a group exactly if a word on it names a family and others follow: the first such
word decides the family, and the words behind it are the options.  The options that are new, and
nothing else, are recorded. -/
theorem ofLine?_declares (line : Text) (known : Vocabulary) :
    ((Group.ofLine? line known).1.isSome ↔
      ∃ family tokens, Carries line family tokens ∧ tokens ≠ []) ∧
    (∀ group, (Group.ofLine? line known).1 = some group →
      ∃ tokens, Carries line group.family tokens ∧ tokens ≠ [] ∧
        group.options =
          (if group.family = .shaderFeature ∧ tokens.length = 1 ∧ tokens ≠ [['_']] then [""]
            else []) ++
            tokens.map (fun token => if token = ['_'] then "" else String.ofList token) ∧
        (Group.ofLine? line known).2.words = known.words ++
          (group.options.filter fun option => option ≠ "" ∧ option ∉ known.words).eraseDups) ∧
    ((Group.ofLine? line known).1 = none → (Group.ofLine? line known).2 = known) := by
  by_cases said : ∃ family tokens, Carries line family tokens ∧ tokens ≠ []
  · obtain ⟨family, tokens, carried, some_token⟩ := said
    obtain ⟨group, reads, rfl, options⟩ := ofLine?_of_carries known carried some_token
    rw [reads]
    refine ⟨iff_of_true rfl ⟨_, tokens, carried, some_token⟩, ?_, fun nothing => nomatch nothing⟩
    intro other same
    obtain rfl := Option.some.inj same
    refine ⟨tokens, carried, some_token, options.trans (declaredOptions_eq _ tokens), ?_⟩
    rw [Vocabulary.words_foldl_insert]
    have new : known.isNew = fun option => decide (option ≠ "" ∧ option ∉ known.words) := by
      funext option
      rw [Bool.eq_iff_iff, Vocabulary.isNew_iff, decide_eq_true_eq]
    rw [new]
  · rw [ofLine?_of_silent said]
    refine ⟨iff_of_false Bool.false_ne_true said, ?_, fun _ => rfl⟩
    intro group nothing
    cases nothing

example :
    (Group.ofLine? "shader_feature multi_compile // _ A".toList .empty).1.map (·.options) =
      some ["", "multi_compile"] := by
  decide

end ShaderVariants.Keyword
