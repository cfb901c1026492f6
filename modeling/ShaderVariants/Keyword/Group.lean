import ShaderVariants.Comment
import ShaderVariants.Keyword.Vocabulary

/-!
Keyword groups: the axes along which a shader varies.

A group is what one directive declares.  `Group.ofLine?` reads it off the directive's line and
records its keywords on the way.  `Group.hint` is a short preview of it: `gather` joins options only
until the budget is reached, and what it gathered is cut.
-/
namespace ShaderVariants.Keyword

/-- What kind of axis a directive declares. -/
inductive Family where
  | multiCompile
  | shaderFeature
deriving DecidableEq, Repr

def Family.keyword : Family → String
  | .multiCompile => "multi_compile"
  | .shaderFeature => "shader_feature"

/-- Whether `word` is the base keyword, alone or continued after an underscore. -/
def Family.claims (family : Family) (word : Text) : Bool :=
  match Text.after? family.keyword.toList word with
  | some [] => true
  | some (c :: _) => c = '_'
  | none => false

/-- The family a directive word such as `multi_compile_local` belongs to. -/
def Family.ofWord? (word : Text) : Option Family :=
  [Family.multiCompile, Family.shaderFeature].find? (·.claims word)

/-- The options of one axis, in order; the empty option defines no keyword. -/
structure Group where
  family : Family
  options : List String
  nonempty : options ≠ []
deriving DecidableEq, Repr

/-- The group with the given options, if there are any. -/
def Group.of? (family : Family) (options : List String) : Option Group :=
  if nonempty : options ≠ [] then some ⟨family, options, nonempty⟩ else none

def Group.size (group : Group) : Nat :=
  group.options.length

def Group.option? (group : Group) (index : Nat) : Option String :=
  group.options[index]?

def emptyToken : Text := ['_']

/-- The first word that names a family, and the words after it. -/
def declaration? : List Text → Option (Family × List Text)
  | [] => none
  | word :: rest =>
      match Family.ofWord? word with
      | some family => some (family, rest)
      | none => declaration? rest

def optionOf (token : Text) : String :=
  if token = emptyToken then "" else String.ofList token

def recorded (tokens : List Text) (known : Vocabulary) : Vocabulary :=
  tokens.foldl (fun known token =>
    if token = emptyToken then known else known.insert (String.ofList token)) known

/-- The options the words after a family declare.  A feature with a single keyword can be switched
off, so it has the empty option in front. -/
def declaredOptions (family : Family) (tokens : List Text) : List String :=
  match family, tokens with
  | .shaderFeature, [token] =>
      if token = emptyToken then [optionOf token] else ["", optionOf token]
  | _, _ => tokens.map optionOf

/-- The group a directive line declares, and the vocabulary afterwards.  A line comment ends the
line; a line without a family, or without a word after it, declares nothing. -/
def Group.ofLine? (line : Text) (known : Vocabulary) : Option Group × Vocabulary :=
  match declaration? (Text.words (Text.upTo Comment.lineMarker line)) with
  | none => (none, known)
  | some (_, []) => (none, known)
  | some (family, token :: tokens) =>
      (Group.of? family (declaredOptions family (token :: tokens)),
        recorded (token :: tokens) known)

/-- Characters a hint may have. -/
def hintBudget : Nat := 18

def ellipsis : Text := ['.', '.', '.']

/-- Adds options to `hint`, a comma between any two, and stops once the budget is reached. -/
def gather (hint : Text) : List String → Text
  | [] => hint
  | option :: options =>
      let longer := if hint.isEmpty then option.toList else hint ++ ',' :: option.toList
      if hintBudget ≤ longer.length then longer else gather longer options

/-- `text` within the budget: as it is, or its beginning and an ellipsis. -/
def withinBudget (text : Text) : Text :=
  if hintBudget < text.length then text.take (hintBudget - ellipsis.length) ++ ellipsis else text

def Group.hint (group : Group) : String :=
  String.ofList (withinBudget (gather [] (group.options.filter (fun option => !option.isEmpty))))

end ShaderVariants.Keyword
