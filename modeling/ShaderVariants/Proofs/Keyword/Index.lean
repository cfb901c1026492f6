import ShaderVariants.Keyword.Index
import ShaderVariants.Proofs.Comment.Lines
import ShaderVariants.Proofs.Directive.Lines

/-!
The index of a source, line by line.

Every line of the text without block comments is read by itself.  What it declares does not depend
on the vocabulary, which only records it, so texts can be indexed one after the other
(`declarations_append`) and a line that declares nothing can be left out.
-/
namespace ShaderVariants.Keyword

open Text

variable {front middle : Text} {known : Vocabulary}

/-- The groups that the lines of a text without block comments declare, and the vocabulary
afterwards. -/
def declarations (text : Text) (known : Vocabulary) : List Group × Vocabulary :=
  groupsOfLines known ((lines text).filterMap Directive.ofLine?)

theorem index_eq_declarations (source : Text) (known : Vocabulary) :
    index source known = declarations (Comment.strip source) known := by
  rw [index, Directive.lines_live]
  rfl

theorem declaredOptions_ne_nil (family : Family) {tokens : List Text} (some_token : tokens ≠ []) :
    declaredOptions family tokens ≠ [] := by
  unfold declaredOptions
  split
  · split <;> simp
  · simpa using some_token

theorem mem_of_declaration? {words tokens : List Text} {family : Family}
    (declared : declaration? words = some (family, tokens)) {token : Text}
    (member : token ∈ tokens) : token ∈ words := by
  induction words with
  | nil => cases declared
  | cons word rest ih =>
      rw [declaration?] at declared
      cases named : Family.ofWord? word with
      | some first =>
          rw [named] at declared
          cases declared
          exact List.mem_cons_of_mem word member
      | none =>
          rw [named] at declared
          exact List.mem_cons_of_mem word (ih declared)

/-- A line declares nothing, or a group of words of its own, whatever the vocabulary is. -/
theorem Group.ofLine?_cases (line : Text) :
    (∀ known, Group.ofLine? line known = (none, known)) ∨
    ∃ family tokens group, group.options = declaredOptions family tokens ∧
      (∀ token ∈ tokens, token ∈ words (upTo Comment.lineMarker line)) ∧
      ∀ known, Group.ofLine? line known = (some group, recorded tokens known) := by
  unfold Group.ofLine?
  split
  · exact .inl fun known => rfl
  · exact .inl fun known => rfl
  · next family token tokens declared =>
      have some_option := declaredOptions_ne_nil family (List.cons_ne_nil token tokens)
      refine .inr ⟨family, token :: tokens, ⟨family, _, some_option⟩, rfl, ?_, fun known => ?_⟩
      · exact fun word member => mem_of_declaration? declared member
      · rw [Group.of?, dif_pos some_option]

theorem solid_of_mem_words {text word : Text} (member : word ∈ words text) :
    ∀ c ∈ word, isBlank c = false := by
  have piece : word ∈ text.splitOnP isBlank := (List.mem_filter.mp member).1
  clear member
  induction text generalizing word with
  | nil => simp_all
  | cons c rest ih =>
      rw [List.splitOnP_cons_eq_if_modifyHead] at piece
      split at piece
      · rcases List.mem_cons.mp piece with rfl | later
        · simp
        · exact ih later
      · next solid =>
          cases pieces : rest.splitOnP isBlank with
          | nil => exact absurd pieces (List.splitOnP_ne_nil _ _)
          | cons first others =>
              rw [pieces] at piece ih
              rcases List.mem_cons.mp piece with rfl | later
              · have first_solid := ih List.mem_cons_self
                simpa [solid] using first_solid
              · exact ih (List.mem_cons_of_mem first later)

/-- The options are words of the directive other than `_`, or empty. -/
theorem mem_declaredOptions {family : Family} {tokens : List Text} {option : String}
    (member : option ∈ declaredOptions family tokens) :
    option = "" ∨ ∃ token ∈ tokens, token ≠ emptyToken ∧ option = String.ofList token := by
  have of_token {token : Text} (inside : token ∈ tokens) (same : optionOf token = option) :
      option = "" ∨ ∃ token ∈ tokens, token ≠ emptyToken ∧ option = String.ofList token := by
    unfold optionOf at same
    split at same
    · exact .inl same.symm
    · next named => exact .inr ⟨token, inside, named, same.symm⟩
  unfold declaredOptions at member
  split at member
  · next token =>
      split at member <;> simp only [List.mem_cons, List.not_mem_nil, or_false] at member
      · exact of_token List.mem_cons_self member.symm
      · rcases member with rfl | same
        · exact .inl rfl
        · exact of_token List.mem_cons_self same.symm
  · obtain ⟨token, inside, same⟩ := List.mem_map.mp member
    exact of_token inside same

theorem mem_options_of_mem_groupsOfLines {lines : List Text} {group : Group} {option : String}
    (indexed : group ∈ (groupsOfLines known lines).1) (member : option ∈ group.options) :
    option = "" ∨ ∃ line ∈ lines, ∃ word ∈ words (upTo Comment.lineMarker line),
      word ≠ emptyToken ∧ option = String.ofList word := by
  induction lines generalizing known with
  | nil => cases indexed
  | cons line rest ih =>
      have below (known : Vocabulary) (later : group ∈ (groupsOfLines known rest).1) :
          option = "" ∨ ∃ other ∈ line :: rest, ∃ word ∈ words (upTo Comment.lineMarker other),
            word ≠ emptyToken ∧ option = String.ofList word := by
        apply (ih later).imp_right
        rintro ⟨other, among, word⟩
        exact ⟨other, List.mem_cons_of_mem line among, word⟩
      rcases Group.ofLine?_cases line with silent | ⟨family, tokens, first, options, own, declares⟩
      · simp only [groupsOfLines, silent] at indexed
        exact below known (by simpa using indexed)
      · simp only [groupsOfLines, declares, Option.toList_some, List.singleton_append,
          List.mem_cons] at indexed
        rcases indexed with rfl | later
        · rw [options] at member
          apply (mem_declaredOptions member).imp_right
          rintro ⟨token, inside, named, same⟩
          exact ⟨line, List.mem_cons_self, token, own token inside, named, same⟩
        · exact below _ later

/-- No option of an indexed group has a blank in it. -/
theorem solid_of_mem_groupsOfLines {lines : List Text} {group : Group} {option : String}
    (indexed : group ∈ (groupsOfLines known lines).1) (member : option ∈ group.options) :
    ∀ c ∈ option.toList, isBlank c = false := by
  rcases mem_options_of_mem_groupsOfLines indexed member with
    rfl | ⟨line, -, word, inside, -, rfl⟩
  · simp
  · rw [String.toList_ofList]
    exact solid_of_mem_words inside

theorem groupsOfLines_append (known : Vocabulary) (front back : List Text) :
    groupsOfLines known (front ++ back) =
      let first := groupsOfLines known front
      let second := groupsOfLines first.2 back
      (first.1 ++ second.1, second.2) := by
  induction front generalizing known with
  | nil => rfl
  | cons line rest ih => simp only [List.cons_append, groupsOfLines, ih, List.append_assoc]

theorem vocabulary_of_no_groups {lines : List Text}
    (nothing : (groupsOfLines known lines).1 = []) : (groupsOfLines known lines).2 = known := by
  induction lines generalizing known with
  | nil => rfl
  | cons line rest ih =>
      rcases Group.ofLine?_cases line with silent | ⟨family, tokens, group, -, -, declares⟩
      · simp only [groupsOfLines, silent] at nothing ⊢
        exact ih nothing
      · simp [groupsOfLines, declares] at nothing

theorem groups_eq_of_vocabulary (known other : Vocabulary) (lines : List Text) :
    (groupsOfLines known lines).1 = (groupsOfLines other lines).1 := by
  induction lines generalizing known other with
  | nil => rfl
  | cons line rest ih =>
      rcases Group.ofLine?_cases line with silent | ⟨family, tokens, group, -, -, declares⟩
      · simp only [groupsOfLines, silent]
        exact congrArg _ (ih known other)
      · simp only [groupsOfLines, declares]
        exact congrArg _ (ih _ _)

/-- A text that ends where a line does is indexed before what follows it. -/
theorem declarations_append (closed : Closed front) (back : Text) (known : Vocabulary) :
    declarations (front ++ back) known =
      let first := declarations front known
      let second := declarations back first.2
      (first.1 ++ second.1, second.2) := by
  rw [declarations, lines_append closed, List.filterMap_append, groupsOfLines_append]
  rfl

/-- The line break behind the last line adds no directive to it. -/
theorem filterMap_ofLine?_concat (text : Text) :
    (lines (text ++ ['\n'])).filterMap Directive.ofLine? =
      (lines text).filterMap Directive.ofLine? := by
  induction text using lines_induction with
  | last line unbroken =>
      have silent : Directive.ofLine? [] = none := rfl
      rw [lines_cons_line unbroken, List.filterMap_cons, Directive.ofLine?_concat unbroken]
      by_cases empty : line = []
      · simp [empty, silent, lines]
      · simp [lines_of_unbroken unbroken empty, List.filterMap_cons, lines]
  | next line rest unbroken ih =>
      rw [List.append_assoc, List.cons_append, lines_cons_line unbroken, lines_cons_line unbroken,
        List.filterMap_cons, List.filterMap_cons, ih]

theorem declarations_append_break (front back : Text) (known : Vocabulary) :
    declarations (front ++ '\n' :: back) known =
      let first := declarations front known
      let second := declarations back first.2
      (first.1 ++ second.1, second.2) := by
  have ended : declarations (front ++ ['\n']) known = declarations front known :=
    congrArg (groupsOfLines known) (filterMap_ofLine?_concat front)
  rw [List.append_cons, declarations_append (closed_concat front), ended]

theorem declarations_append_silent (closed : Closed front)
    (silent : (declarations middle .empty).1 = []) (known : Vocabulary) :
    declarations (front ++ middle) known = declarations front known := by
  have nothing : declarations middle (declarations front known).2 =
      ([], (declarations front known).2) := by
    have groups : (declarations middle (declarations front known).2).1 = [] := by
      rw [declarations, groups_eq_of_vocabulary _ .empty]
      exact silent
    exact Prod.ext groups (vocabulary_of_no_groups groups)
  simp only [declarations_append closed, nothing, List.append_nil]

theorem declarations_drop_silent (front_closed : Closed front) (closed : Closed middle)
    (silent : (declarations middle .empty).1 = []) (back : Text) (known : Vocabulary) :
    declarations (front ++ middle ++ back) known = declarations (front ++ back) known := by
  rw [declarations_append (front_closed.append closed),
    declarations_append_silent front_closed silent, declarations_append front_closed]

end ShaderVariants.Keyword
