import ShaderVariants.Comment
import ShaderVariants.Directive
import ShaderVariants.Keyword.Group

/-!
The keyword groups of a whole source, and the number of variants they span.
-/
namespace ShaderVariants.Keyword

def groupsOfLines (known : Vocabulary) : List Text → List Group × Vocabulary
  | [] => ([], known)
  | line :: lines =>
      let (group?, known) := Group.ofLine? line known
      let (groups, known) := groupsOfLines known lines
      (group?.toList ++ groups, known)

/-- The groups that `source` declares outside its comments, and the vocabulary afterwards. -/
def index (source : Text) (known : Vocabulary) : List Group × Vocabulary :=
  groupsOfLines known ((Directive.live (Comment.strip source)).map (·.line))

def countLimit : Nat := Nat.pow 2 128 - 1

/-- Number of ways to choose one option in each group, the limit when there are more. -/
def variantCount (groups : List Group) : Nat :=
  groups.foldl (fun count group => min (count * group.size) countLimit) 1

end ShaderVariants.Keyword
