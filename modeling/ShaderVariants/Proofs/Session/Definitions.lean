import ShaderVariants.Proofs.Keyword.Options
import ShaderVariants.Proofs.Session.Variant

/-!
What the definitions in front of a source do to its index.

Nothing.  A definition has no marker of a comment in it, so that none begins there, and at most one
word behind a `#pragma`, so that it declares no keywords.
-/
namespace ShaderVariants.Session

open Text Keyword
open Comment (lineMarker opening)

variable {keyword : String} {keywords : List String} {marker line directive : Text}
  {known : Vocabulary} {pass : Pass}

/-- The lines that define keywords. -/
def definitionText (keywords : List String) : Text :=
  keywords.flatMap fun keyword => definitionLine keyword ++ ['\n']

theorem definitionText_cons (keyword : String) (rest : List String) :
    definitionText (keyword :: rest) =
      defineWord ++ ' ' :: (keyword.toList ++ '\n' :: definitionText rest) := by
  simp [definitionText, definitionLine]

theorem not_infix_definitionText (no_space : ' ' ∉ marker) (no_break : '\n' ∉ marker)
    (not_define : ¬ marker <:+: defineWord)
    (absent : ∀ keyword ∈ keywords, ¬ marker <:+: keyword.toList) :
    ¬ marker <:+: definitionText keywords := by
  induction keywords with
  | nil => exact fun inside => not_define (inside.trans List.nil_infix)
  | cons keyword rest ih =>
      rw [List.forall_mem_cons] at absent
      rw [definitionText_cons]
      apply not_infix_append_cons no_space not_define
      exact not_infix_append_cons no_break absent.1 (ih absent.2)

theorem lex_definitionText (plain : ∀ keyword ∈ keywords, IsPlain keyword) :
    Comment.lex .code (definitionText keywords) = (definitionText keywords).map .code := by
  apply Comment.lex_of_markerless
  · exact not_infix_definitionText (by decide) (by decide) (by decide)
      fun keyword member => (plain keyword member).noLine
  · exact not_infix_definitionText (by decide) (by decide) (by decide)
      fun keyword member => (plain keyword member).noBlock

theorem unbroken_of_isPlain (plain : IsPlain keyword) : '\n' ∉ keyword.toList := by
  intro broken
  have solid := plain.solid '\n' broken
  cases solid

theorem unbroken_definitionLine (plain : IsPlain keyword) : '\n' ∉ definitionLine keyword := by
  simp [definitionLine, defineWord, unbroken_of_isPlain plain]

theorem lines_definitionText (plain : ∀ keyword ∈ keywords, IsPlain keyword) :
    lines (definitionText keywords) =
      keywords.map fun keyword => definitionLine keyword ++ ['\n'] := by
  induction keywords with
  | nil => rfl
  | cons keyword rest ih =>
      rw [List.forall_mem_cons] at plain
      have split : definitionText (keyword :: rest) =
          definitionLine keyword ++ '\n' :: definitionText rest := by simp [definitionText]
      rw [split, lines_cons_line (unbroken_definitionLine plain.1), ih plain.2, List.map_cons]

theorem closed_definitionText (keywords : List String) : Closed (definitionText keywords) := by
  induction keywords with
  | nil => exact closed_nil
  | cons keyword rest ih => exact (closed_concat (definitionLine keyword)).append ih

/-- A directive on the line of a definition is all in the keyword. -/
theorem solid_of_ofLine?_definitionLine (plain : IsPlain keyword)
    (found : Directive.ofLine? (definitionLine keyword) = some directive) :
    ∀ c ∈ directive, isBlank c = false := by
  -- `#define` has no `#pragma` in it, so the first one is in the keyword.
  have whole : definitionLine keyword = defineWord ++ ' ' :: keyword.toList := rfl
  rw [Directive.ofLine?, Directive.occurrence?,
    firstLine_of_unbroken (unbroken_definitionLine plain), whole,
    cut?_append_cons (by decide) (by decide) keyword.toList,
    cut?_cons (by simp [Directive.marker])] at found
  cases cut : cut? Directive.marker keyword.toList with
  | none => simp [cut] at found
  | some parts =>
      obtain ⟨before, after⟩ := parts
      simp only [cut, Option.map_some] at found
      split at found
      · cases found
      · cases found
        intro c member
        apply plain.solid c
        rw [eq_append_of_cut? cut, List.append_assoc]
        exact List.mem_append_right before ((prefix_trimEnd _ _).subset member)

/-- One word declares nothing, whatever it is. -/
theorem ofLine?_of_solid (solid : ∀ c ∈ line, isBlank c = false) (known : Vocabulary) :
    Group.ofLine? line known = (none, known) := by
  have whole : (upTo lineMarker line).splitOnP isBlank = [upTo lineMarker line] := by
    apply List.splitOnP_eq_singleton
    intro c member
    exact solid c ((prefix_upTo lineMarker line).subset member)
  rw [Group.ofLine?, words, whole]
  cases word : upTo lineMarker line with
  | nil => rfl
  | cons c rest =>
      simp only [List.filter_cons, List.isEmpty_cons, Bool.not_false, if_true, List.filter_nil,
        declaration?]
      cases Family.ofWord? (c :: rest) <;> rfl

theorem declarations_definitionText (plain : ∀ keyword ∈ keywords, IsPlain keyword)
    (known : Vocabulary) : declarations (definitionText keywords) known = ([], known) := by
  rw [declarations, lines_definitionText plain]
  induction keywords with
  | nil => rfl
  | cons keyword rest ih =>
      rw [List.forall_mem_cons] at plain
      have below := ih plain.2
      rw [List.map_cons, List.filterMap_cons,
        Directive.ofLine?_concat (unbroken_definitionLine plain.1)]
      cases found : Directive.ofLine? (definitionLine keyword) with
      | none => exact below
      | some directive =>
          have silent := ofLine?_of_solid (solid_of_ofLine?_definitionLine plain.1 found) known
          simp only [groupsOfLines, silent, below]
          rfl

theorem strip_definitionText (plain : ∀ keyword ∈ keywords, IsPlain keyword) (source : Text) :
    Comment.strip (definitionText keywords ++ source) =
      definitionText keywords ++ Comment.strip source := by
  have lexed := lex_definitionText plain
  rw [Comment.strip_eq_remainder, Comment.strip_eq_remainder,
    Comment.remainder_append (closed_definitionText keywords), Comment.remainder_of_code lexed,
    Comment.modeBehind_of_code lexed]

/-- Every option of a pass can be defined on a line of its own, and in front of the source the
definitions of any choice stand apart: they open no comment and declare nothing, so that the code a
variant is made of has the index of the source. -/
theorem index_of_definitions
    (built : pass.groups = (Keyword.index pass.source.toList known).1) (selection : Selection) :
    let keywords := selection.keywords pass
    let definitions := (Oracle.definitions keywords).toList
    let code := definitions ++ pass.source.toList
    (∀ group ∈ pass.groups, ∀ option ∈ group.options, IsPlain option) ∧
    lines definitions = keywords.map (fun keyword => definitionLine keyword ++ ['\n']) ∧
    Comment.strip code = definitions ++ Comment.strip pass.source.toList ∧
    (∀ known, Keyword.index definitions known = ([], known)) ∧
    (∀ known, Keyword.index code known = Keyword.index pass.source.toList known) ∧
    ∀ request bytes, request.pass = pass → request.keywords = keywords →
      Oracle.defines.materialize request = .ok bytes → Utf8.decode? bytes = some code := by
  intro keywords definitions code
  have options : ∀ group ∈ pass.groups, ∀ option ∈ group.options, IsPlain option := by
    rw [built]
    intro group indexed option member
    exact isPlain_of_mem_index indexed member
  have plain : ∀ keyword ∈ keywords, IsPlain keyword := by
    intro keyword member
    obtain ⟨group, in_pass, option⟩ := Selection.mem_options_of_mem_keywords member
    exact options group in_pass keyword option
  have written : definitions = definitionText keywords := toList_definitions keywords
  have stripped (source : Text) :
      Comment.strip (definitions ++ source) = definitions ++ Comment.strip source := by
    rw [written]
    exact strip_definitionText plain source
  have silent (known : Vocabulary) : declarations definitions known = ([], known) := by
    rw [written]
    exact declarations_definitionText plain known
  refine ⟨options, ?_, stripped _, fun known => ?_, fun known => ?_, ?_⟩
  · rw [written]
    exact lines_definitionText plain
  · have alone := stripped []
    have nothing : Comment.strip [] = [] := by rw [Comment.strip_eq_remainder]; rfl
    rw [nothing, List.append_nil] at alone
    rw [index_eq_declarations, alone, silent]
  · have closed : Closed definitions := by
      rw [written]
      exact closed_definitionText keywords
    rw [index_eq_declarations, index_eq_declarations, stripped, declarations_append closed, silent]
    rfl
  · intro request bytes same_pass same_keywords made
    rw [bytes_of_materialize made, same_pass, same_keywords, String.toList_append]
    exact Utf8.decode?_encode code

theorem index_of_definitions_like_markers :
    let source := "#pragma multi_compile _ A*/ x#pragma\n/**/#pragma shader_feature /#B // C\n"
    let pass : Pass :=
      { subshader := 0, place := 0, name := "lit", source, stages := [.vertex], hints := []
        groups := (Keyword.index source.toList .empty).1 }
    let selection : Selection := ⟨some 0, [2, 1]⟩
    let code := "#define x#pragma\n#define /#B\n".toList ++ source.toList
    selection.keywords pass = ["x#pragma", "/#B"] ∧
      Keyword.index code .empty = Keyword.index source.toList .empty ∧
      ∃ bytes, Oracle.defines.materialize ⟨pass, ["x#pragma", "/#B"], .vertex, .gles3x, .android⟩ =
        .ok bytes ∧ Utf8.decode? bytes = some code := by
  intro source pass selection code
  have chosen : selection.keywords pass = ["x#pragma", "/#B"] := by decide +kernel
  obtain ⟨-, -, -, -, same_index, made⟩ := @index_of_definitions .empty pass rfl selection
  have written : (Oracle.definitions ["x#pragma", "/#B"]).toList =
      "#define x#pragma\n#define /#B\n".toList := by decide
  rw [chosen, written] at same_index
  simp only [chosen, written] at made
  refine ⟨chosen, same_index .empty, _, rfl, ?_⟩
  exact made ⟨pass, ["x#pragma", "/#B"], .vertex, .gles3x, .android⟩ _ rfl rfl rfl

end ShaderVariants.Session
