import Mathlib.Data.Finset.Insert
import ShaderVariants.Keyword.Vocabulary

/-!
What a vocabulary lists.

Words that are recorded one after the other are listed once each, where they come first
(`words_foldl_insert`).  A vocabulary that keeps the set of its words beside the list, to look them
up there, lists the same words and knows the same words (`Represents.run`).
-/
namespace ShaderVariants.Keyword

namespace Vocabulary

variable {known : Vocabulary} {word : String}

theorem isNew_iff : known.isNew word = true ↔ word ≠ "" ∧ word ∉ known.words := by
  simp [isNew, contains]

theorem insert_of_isNew (new : known.isNew word = true) :
    (known.insert word).words = known.words ++ [word] := by
  rw [insert, if_pos new]

theorem insert_of_known (old : known.isNew word = false) : known.insert word = known := by
  rw [insert, if_neg (by simp [old])]

theorem insert_nothing (known : Vocabulary) : known.insert "" = known :=
  insert_of_known rfl

/-- Recording words one after the other lists the new ones behind the others, each once and where it
comes first. -/
theorem words_foldl_insert (words : List String) (known : Vocabulary) :
    (words.foldl insert known).words = known.words ++ (words.filter known.isNew).eraseDups := by
  induction words generalizing known with
  | nil => simp
  | cons word rest ih =>
      rw [List.foldl_cons, ih]
      cases new : known.isNew word with
      | false => rw [insert_of_known new, List.filter_cons_of_neg (by simp [new])]
      | true =>
          have later : (known.insert word).isNew =
              fun other => (!other == word) && known.isNew other := by
            funext other
            rw [Bool.eq_iff_iff]
            simp only [isNew_iff, insert_of_isNew new, List.mem_append, List.mem_singleton,
              Bool.and_eq_true, Bool.not_eq_true', beq_eq_false_iff_ne, not_or]
            exact ⟨fun ⟨named, old, apart⟩ => ⟨apart, named, old⟩,
              fun ⟨apart, named, old⟩ => ⟨named, old, apart⟩⟩
          rw [List.filter_cons_of_pos new, List.eraseDups_cons, List.filter_filter,
            insert_of_isNew new, List.append_assoc, later]
          rfl

/-- What can be done to a vocabulary. -/
inductive Change where
  | insert (word : String)
  | clear

def change (known : Vocabulary) : Change → Vocabulary
  | .insert word => known.insert word
  | .clear => known.clear

/-- Every word that is listed is listed once, and the empty word is not. -/
structure Sound (known : Vocabulary) : Prop where
  named : "" ∉ known.words
  distinct : known.words.Nodup

theorem sound_empty : Sound empty :=
  ⟨List.not_mem_nil, List.nodup_nil⟩

theorem Sound.change (sound : Sound known) (step : Change) : Sound (known.change step) := by
  cases step with
  | clear => exact sound_empty
  | insert word =>
      cases new : known.isNew word with
      | false =>
          show Sound (known.insert word)
          rwa [insert_of_known new]
      | true =>
          obtain ⟨named, fresh⟩ := isNew_iff.mp new
          constructor
          · show "" ∉ (known.insert word).words
            rw [insert_of_isNew new, List.mem_append, List.mem_singleton, not_or]
            exact ⟨sound.named, Ne.symm named⟩
          · show (known.insert word).words.Nodup
            rw [insert_of_isNew new]
            exact List.concat_eq_append ▸ sound.distinct.concat fresh

theorem Sound.run (sound : Sound known) (steps : List Change) :
    Sound (steps.foldl Vocabulary.change known) := by
  induction steps generalizing known with
  | nil => exact sound
  | cons step rest ih => exact ih (sound.change step)

theorem contains_iff : known.contains word = true ↔ word ∈ known.words := by
  simp [contains]

end Vocabulary

/-- The words met so far as a list, and as a set in which they are looked up. -/
structure Register where
  ordered : List String
  seen : Finset String

namespace Register

def empty : Register := ⟨[], ∅⟩

def contains (register : Register) (word : String) : Bool :=
  decide (word ∈ register.seen)

def insert (register : Register) (word : String) : Register :=
  if word.isEmpty || register.contains word then register
  else ⟨register.ordered ++ [word], Insert.insert word register.seen⟩

def change (register : Register) : Vocabulary.Change → Register
  | .insert word => register.insert word
  | .clear => empty

/-- The list and the set of the register are those of the words of the vocabulary. -/
structure Represents (register : Register) (known : Vocabulary) : Prop where
  ordered : register.ordered = known.words
  seen : ∀ word, word ∈ register.seen ↔ word ∈ known.words

variable {register : Register} {known : Vocabulary}

theorem represents_empty : Represents empty .empty :=
  ⟨rfl, fun word => by simp [empty, Vocabulary.empty]⟩

theorem Represents.contains_eq (represents : Represents register known) (word : String) :
    register.contains word = known.contains word := by
  rw [Bool.eq_iff_iff, Vocabulary.contains_iff, contains, decide_eq_true_eq,
    represents.seen word]

theorem Represents.insert (represents : Represents register known) (word : String) :
    Represents (register.insert word) (known.insert word) := by
  have same : (word.isEmpty || register.contains word) = !known.isNew word := by
    rw [represents.contains_eq, Vocabulary.isNew, Bool.not_and, Bool.not_not, Bool.not_not]
  cases new : known.isNew word with
  | false =>
      rw [Register.insert, same, new, Vocabulary.insert_of_known new]
      exact represents
  | true =>
      rw [Register.insert, same, new]
      constructor
      · rw [Vocabulary.insert_of_isNew new, ← represents.ordered]
        rfl
      · intro other
        rw [Vocabulary.insert_of_isNew new]
        simp [represents.seen, or_comm]

theorem Represents.change (represents : Represents register known) (step : Vocabulary.Change) :
    Represents (register.change step) (known.change step) := by
  cases step with
  | insert word => exact represents.insert word
  | clear => exact represents_empty

/-- However words are recorded and forgotten, looking them up in the set is looking them up in the
list. -/
theorem Represents.run (represents : Represents register known) (steps : List Vocabulary.Change) :
    Represents (steps.foldl Register.change register) (steps.foldl Vocabulary.change known) := by
  induction steps generalizing register known with
  | nil => exact represents
  | cons step rest ih => exact ih (represents.change step)

end Register

end ShaderVariants.Keyword
