/-!
The distinct keywords met so far, in the order in which they were first met.
-/
namespace ShaderVariants.Keyword

/-- Distinct nonempty words, oldest first. -/
structure Vocabulary where
  words : List String := []
deriving DecidableEq, Repr

namespace Vocabulary

def empty : Vocabulary := {}

def contains (vocabulary : Vocabulary) (word : String) : Bool :=
  vocabulary.words.contains word

/-- Whether `word` would be new: words already met and the empty word are not. -/
def isNew (vocabulary : Vocabulary) (word : String) : Bool :=
  !word.isEmpty && !vocabulary.contains word

/-- Records `word` at the end if it is new. -/
def insert (vocabulary : Vocabulary) (word : String) : Vocabulary :=
  if vocabulary.isNew word then ⟨vocabulary.words ++ [word]⟩ else vocabulary

def clear (_ : Vocabulary) : Vocabulary := empty

end Vocabulary

end ShaderVariants.Keyword
