import ShaderVariants.Toml.Document

/-!
Reading back what was written line by line.

`Written` lists the lines a document may be written with, and the statements they stand for;
`statements?_of_written` reads them back one after the other.  What is assigned to a key is any
text that `IsWritten` says is read back as a value: a string spelled one character after the other,
or the digits of a number.
-/
namespace ShaderVariants.Toml

/-- A text that stands for `c` between the quotes of a basic string. -/
structure Spells (text : Text) (c : Char) : Prop where
  nonempty : text ≠ []
  unquoted : text.head? ≠ some '"'
  read : ∀ fuel rest, basic? (fuel + 1) (text ++ rest) =
    (basic? fuel rest).map fun (string, rest) => (c :: string, rest)

/-- A text of characters that pass `test`, and of one at least. -/
def IsRun (test : Char → Bool) (text : Text) : Prop :=
  text ≠ [] ∧ ∀ c ∈ text, test c = true

/-- A key that needs no quotes. -/
abbrev IsBare (key : Text) : Prop :=
  IsRun isKeyCharacter key

/-- A text that stands for `value` at the end of a line, whatever the next lines are. -/
def IsWritten (text : Text) (value : Value) : Prop :=
  ∀ rest, value? nestingLimit (skipBlanks (text ++ '\n' :: rest)) = some (value, '\n' :: rest)

/-- The lines of a document, and the statements they stand for. -/
inductive Written : Text → List Statement → Prop where
  | done : Written [] []
  | blank {text : Text} {later : List Statement} (rest : Written text later) :
      Written ('\n' :: text) later
  | comment {line text : Text} {later : List Statement}
      (ordinary : ∀ c ∈ line, isOrdinary c = true) (rest : Written text later) :
      Written ('#' :: (line ++ '\n' :: text)) later
  | table {key text : Text} {later : List Statement} (bare : IsBare key)
      (rest : Written text later) :
      Written ('[' :: (key ++ ']' :: '\n' :: text)) (.table [String.ofList key] :: later)
  | assign {key line text : Text} {value : Value} {later : List Statement} (bare : IsBare key)
      (written : IsWritten line value) (rest : Written text later) :
      Written (key ++ ' ' :: '=' :: ' ' :: (line ++ '\n' :: text))
        (.assign [String.ofList key] value :: later)

instance (test : Char → Bool) : DecidablePred (IsRun test) := fun text =>
  decidable_of_iff ((!text.isEmpty && text.all test) = true) (by simp [IsRun])

variable {text line rest key string : Text} {c : Char} {fuel budget n : Nat} {value : Value}
  {later : List Statement} {spell : Char → Text} {test : Char → Bool}

/-- The first character of a run is none that fails the test. -/
theorem IsRun.exists_first (run : IsRun test text) :
    ∃ first others, text = first :: others ∧ ∀ other, test other = false → first ≠ other := by
  obtain ⟨first, others, whole⟩ := List.exists_cons_of_ne_nil run.1
  refine ⟨first, others, whole, ?_⟩
  rintro other outside rfl
  rw [run.2 first (by simp [whole])] at outside
  exact Bool.noConfusion outside

theorem skipBlanks_cons (solid : isInlineBlank c = false) :
    skipBlanks (c :: rest) = c :: rest := by
  rw [skipBlanks, List.dropWhile_cons_of_neg (by simp [solid])]

theorem IsRun.skipBlanks_append (run : IsRun test text) (blank : test ' ' = false)
    (tab : test '\t' = false) (rest : Text) : skipBlanks (text ++ rest) = text ++ rest := by
  obtain ⟨first, others, rfl, differs⟩ := run.exists_first
  exact skipBlanks_cons (by simp [isInlineBlank, differs ' ' blank, differs '\t' tab])

/-! ### Strings -/

theorem basic?_quote (fuel : Nat) (rest : Text) : basic? fuel ('"' :: rest) = some ([], rest) := by
  cases fuel <;> rfl

theorem spells_escape (escape : ∀ rest, escape? (text ++ rest) = some (c, rest)) :
    Spells ('\\' :: text) c := by
  refine ⟨List.cons_ne_nil _ _, by simp, fun fuel rest => ?_⟩
  rw [List.cons_append, basic?, escape rest]
  show (do let (string, rest) ← basic? fuel rest; return (c :: string, rest)) = _
  cases basic? fuel rest <;> rfl

theorem spells_ordinary (notQuote : c ≠ '"') (notBackslash : c ≠ '\\')
    (ordinary : isOrdinary c = true) : Spells [c] c := by
  refine ⟨List.cons_ne_nil _ _, by simpa using notQuote, fun fuel rest => ?_⟩
  rw [List.singleton_append, basic?.eq_3 fuel c rest notQuote notBackslash, ordinary]
  cases basic? fuel rest <;> rfl

theorem escape?_codePoint {digits : Text} (four : digits.length = 4)
    (value : hexValue? digits = some c.toNat) (rest : Text) :
    escape? ('u' :: digits ++ rest) = some (c, rest) := by
  have character : c.toNat.isValidChar := c.valid
  rw [List.cons_append, escape?, codePoint?, List.take_left' four, List.drop_left' four]
  simp [four, value, character]

theorem basic?_flatMap (spells : ∀ c, Spells (spell c) c) (enough : string.length ≤ fuel) :
    basic? fuel (string.flatMap spell ++ '"' :: rest) = some (string, rest) := by
  induction string generalizing fuel with
  | nil => exact basic?_quote fuel rest
  | cons c string ih =>
      cases fuel with
      | zero => simp at enough
      | succ fuel =>
          have shorter : string.length ≤ fuel := by simpa using enough
          rw [List.flatMap_cons, List.append_assoc, (spells c).read, ih shorter]
          rfl

theorem length_le_flatMap (spells : ∀ c, Spells (spell c) c) (string : Text) :
    string.length ≤ (string.flatMap spell).length := by
  induction string with
  | nil => simp
  | cons c string ih =>
      have := List.length_pos_iff.mpr (spells c).nonempty
      simp only [List.length_cons, List.flatMap_cons, List.length_append]
      omega

theorem value?_quoted (spells : ∀ c, Spells (spell c) c) (string rest : Text) :
    value? budget ('"' :: (string.flatMap spell ++ '"' :: '\n' :: rest)) =
      some (.string (String.ofList string), '\n' :: rest) := by
  have one_line (later : Text) :
      string.flatMap spell ++ '"' :: '\n' :: rest = '"' :: '"' :: later → False := by
    intro same
    cases string with
    | nil => simp at same
    | cons c string =>
        have unquoted := (spells c).unquoted
        obtain ⟨head, tail, spelled⟩ := List.exists_cons_of_ne_nil (spells c).nonempty
        rw [spelled] at unquoted
        simp only [List.flatMap_cons, spelled, List.cons_append, List.cons.injEq] at same
        exact unquoted (congrArg some same.1)
  have enough : string.length ≤ (string.flatMap spell ++ '"' :: '\n' :: rest).length := by
    have := length_le_flatMap spells string
    simp only [List.length_append]
    omega
  rw [value?.eq_5 budget '"' _ (by simp) (by simp)]
  simp only [decide_true, Bool.true_or, if_true]
  rw [string?.eq_2 _ one_line, basic?_flatMap spells enough]
  rfl

/-! ### Integers -/

theorem groupedDigits?_of_digits (digits : IsRun Char.isDigit text) :
    groupedDigits? Char.isDigit text = some text := by
  obtain ⟨nonempty, digits⟩ := digits
  induction text with
  | nil => exact absurd rfl nonempty
  | cons c text ih =>
      obtain ⟨digit, digits⟩ := List.forall_mem_cons.mp digits
      cases text with
      | nil => simp [groupedDigits?, digit]
      | cons d text =>
          have not_grouped : d ≠ '_' := by
            rintro rfl
            simp at digits
          rw [groupedDigits?.eq_4 _ _ _ (by simp) (by simpa using not_grouped), if_pos digit,
            ih (List.cons_ne_nil _ _) digits]
          rfl

theorem isRun_toDigits (n : Nat) : IsRun Char.isDigit (Nat.toDigits 10 n) :=
  ⟨Nat.toDigits_ne_nil, fun _ => Nat.isDigit_of_mem_toDigits (by decide) (by decide)⟩

theorem digitsValue_toDigits (n : Nat) : Text.digitsValue (Nat.toDigits 10 n) = n := by
  have counted :
      Text.digitsValue (Nat.toDigits 10 n) = Nat.ofDigitChars 10 (Nat.toDigits 10 n) 0 := by
    simp only [Text.digitsValue, Nat.ofDigitChars, Nat.mul_comm]
  rw [counted, Nat.ofDigitChars_toDigits (by decide) (by decide)]

theorem head_toDigits (positive : 0 < n) : (Nat.toDigits 10 n).head? ≠ some '0' := by
  induction n using Nat.strongRecOn with
  | ind n ih =>
      rcases Nat.lt_or_ge n 10 with single | several
      · rw [Nat.toDigits_of_lt_base single]
        simpa using Nat.ne_of_gt positive
      · rw [Nat.toDigits_of_base_le (by decide) several, List.head?_append]
        have leading := ih (n / 10) (by omega) (by omega)
        cases written : Nat.toDigits 10 (n / 10) with
        | nil => exact absurd written Nat.toDigits_ne_nil
        | cons first others =>
            rw [written] at leading
            exact leading

theorem toDigits_ne_cons_zero (n : Nat) (c : Char) (rest : Text) :
    Nat.toDigits 10 n ≠ '0' :: c :: rest := by
  intro padded
  rcases Nat.eq_zero_or_pos n with rfl | positive
  · simp [Nat.toDigits_of_lt_base] at padded
  · exact head_toDigits positive (by rw [padded]; rfl)

theorem plainDigits?_toDigits (n : Nat) :
    plainDigits? (Nat.toDigits 10 n) = some (Nat.toDigits 10 n) := by
  rw [plainDigits?, groupedDigits?_of_digits (isRun_toDigits n)]
  simp only [Option.bind_eq_bind, Option.bind_some]
  split
  · next padded => exact absurd padded (toDigits_ne_cons_zero n _ _)
  · rfl

theorem splitSign_of_digits (digits : IsRun Char.isDigit text) :
    splitSign text = (false, text) := by
  obtain ⟨first, others, rfl, differs⟩ := digits.exists_first
  exact splitSign.eq_3 _ (fun _ same => differs '-' rfl (List.cons.inj same).1)
    (fun _ same => differs '+' rfl (List.cons.inj same).1)

theorem integer?_toDigits (small : n < integerBound) :
    integer? (Nat.toDigits 10 n) = some (n : Int) := by
  rw [integer?.eq_4 _ (fun _ => toDigits_ne_cons_zero n _ _) (fun _ => toDigits_ne_cons_zero n _ _)
    (fun _ => toDigits_ne_cons_zero n _ _), splitSign_of_digits (isRun_toDigits n)]
  simp [plainDigits?_toDigits, digitsValue_toDigits, small]

theorem isScalarCharacter_of_isDigit (digit : c.isDigit = true) : isScalarCharacter c = true := by
  simp [isScalarCharacter, Char.isAlphanum, digit]

theorem scalar?_toDigits (small : n < integerBound) :
    scalar? (Nat.toDigits 10 n) = some (.integer n) := by
  have not_boolean (word : String) (letters : ¬ IsRun Char.isDigit word.toList) :
      Nat.toDigits 10 n ≠ word.toList := by
    intro same
    exact letters (same ▸ isRun_toDigits n)
  rw [scalar?, if_neg (not_boolean "true" (by decide)), if_neg (not_boolean "false" (by decide)),
    integer?_toDigits small]

theorem value?_toDigits (small : n < integerBound) (rest : Text) :
    value? budget (Nat.toDigits 10 n ++ '\n' :: rest) = some (.integer n, '\n' :: rest) := by
  have token : (Nat.toDigits 10 n ++ '\n' :: rest).takeWhile isScalarCharacter =
      Nat.toDigits 10 n := by
    rw [List.takeWhile_append_of_pos fun c member =>
      isScalarCharacter_of_isDigit ((isRun_toDigits n).2 c member)]
    simp [isScalarCharacter]
  have unquoted : unquoted? (Nat.toDigits 10 n ++ '\n' :: rest) =
      some (.integer n, '\n' :: rest) := by
    rw [unquoted?, token, List.drop_left, scalar?_toDigits small]
    rfl
  obtain ⟨first, others, written, differs⟩ := (isRun_toDigits n).exists_first
  rw [written, List.cons_append] at unquoted ⊢
  rw [value?.eq_5 budget first _ (differs '[' rfl) (differs '\x7b' rfl), unquoted]
  simp [differs '"' rfl, differs '\'' rfl]

/-! ### Lines -/

theorem isWritten_quoted (spells : ∀ c, Spells (spell c) c) (string : Text) :
    IsWritten ('"' :: (string.flatMap spell ++ ['"'])) (.string (String.ofList string)) := by
  intro rest
  rw [List.cons_append, List.append_assoc]
  exact value?_quoted spells string rest

theorem isWritten_toDigits (small : n < integerBound) :
    IsWritten (Nat.toDigits 10 n) (.integer n) := by
  intro rest
  rw [(isRun_toDigits n).skipBlanks_append rfl rfl, value?_toDigits small]

theorem keyPart?_bare (bare : IsBare key) (ended : ∀ c ∈ rest.head?, isKeyCharacter c = false) :
    keyPart? (key ++ rest) = some (String.ofList key, rest) := by
  have taken : (key ++ rest).takeWhile isKeyCharacter = key := by
    rw [List.takeWhile_append_of_pos bare.2]
    cases rest with
    | nil => simp
    | cons c rest => simp [ended c rfl]
  obtain ⟨first, others, rfl, differs⟩ := bare.exists_first
  have unquoted (quote : Char) (outside : isKeyCharacter quote = false) (later : Text) :
      first :: others ++ rest = quote :: later → False := fun same =>
    differs quote outside (List.cons.inj same).1
  rw [keyPart?.eq_3 _ (unquoted '"' rfl) (unquoted '\'' rfl), taken, List.drop_left]
  rfl

theorem key?_bare (bare : IsBare key) (ended : ∀ c ∈ rest.head?, isKeyCharacter c = false)
    (alone : (skipBlanks rest).head? ≠ some '.') :
    key? (key ++ rest) = some ([String.ofList key], skipBlanks rest) := by
  have parts (fuel : Nat) :
      keyParts? (fuel + 1) (key ++ rest) = some ([String.ofList key], skipBlanks rest) := by
    rw [keyParts?, bare.skipBlanks_append rfl rfl, keyPart?_bare bare ended]
    simp only [Option.bind_eq_bind, Option.bind_some]
    split
    · next dotted => simp [dotted] at alone
    · rfl
  rw [key?, parts]
  rfl

theorem statement?_table (bare : IsBare key) (rest : Text) :
    statement? ('[' :: (key ++ ']' :: rest)) = some (.table [String.ofList key], rest) := by
  have single (later : Text) : key ++ ']' :: rest = '[' :: later → False := by
    obtain ⟨first, others, rfl, differs⟩ := bare.exists_first
    exact fun same => differs '[' rfl (List.cons.inj same).1
  rw [statement?.eq_2 _ single, key?_bare bare (by simp [isKeyCharacter])
    (by simp [skipBlanks, isInlineBlank])]
  rfl

theorem statement?_assign (bare : IsBare key) (written : IsWritten line value) (rest : Text) :
    statement? (key ++ ' ' :: '=' :: ' ' :: (line ++ '\n' :: rest)) =
      some (.assign [String.ofList key] value, '\n' :: rest) := by
  have unbracketed (later : Text) :
      key ++ ' ' :: '=' :: ' ' :: (line ++ '\n' :: rest) = '[' :: later → False := by
    obtain ⟨first, others, rfl, differs⟩ := bare.exists_first
    exact fun same => differs '[' rfl (List.cons.inj same).1
  have equals (tail : Text) : Text.after? ['='] (skipBlanks (' ' :: '=' :: tail)) = some tail := rfl
  have assigned : value? nestingLimit (skipBlanks (' ' :: (line ++ '\n' :: rest))) =
      some (value, '\n' :: rest) := written rest
  rw [statement?.eq_3 _ (fun later => unbracketed _) unbracketed,
    key?_bare bare (by simp [isKeyCharacter]) (by simp [skipBlanks, isInlineBlank])]
  simp [equals, assigned]

theorem statements?_blank (fuel : Nat) (text : Text) :
    statements? (fuel + 1) ('\n' :: text) = statements? fuel text := by
  rfl

theorem statements?_comment (ordinary : ∀ c ∈ line, isOrdinary c = true) (fuel : Nat)
    (text : Text) :
    statements? (fuel + 1) ('#' :: (line ++ '\n' :: text)) = statements? fuel text := by
  have ended : endLine? ('#' :: (line ++ '\n' :: text)) = some text := by
    rw [endLine?, skipBlanks_cons rfl, skipComment, List.dropWhile_append_of_pos ordinary]
    rfl
  rw [statements?, skipBlanks_cons rfl]
  simp [ended]

theorem statements?_cons {statement : Statement} (solid : isInlineBlank c = false)
    (statement_here : c ≠ '#' ∧ c ≠ '\n' ∧ c ≠ '\r')
    (read : statement? (c :: line) = some (statement, '\n' :: text)) :
    statements? (fuel + 1) (c :: line) = (statements? fuel text).map (statement :: ·) := by
  have ended : endLine? ('\n' :: text) = some text := rfl
  rw [statements?, skipBlanks_cons solid]
  simp only [statement_here, decide_false, Bool.or_self, Bool.false_eq_true, if_false, read,
    Option.bind_eq_bind, Option.bind_some, ended]
  cases statements? fuel text <;> rfl

theorem statements?_table (bare : IsBare key) (fuel : Nat) (text : Text) :
    statements? (fuel + 1) ('[' :: (key ++ ']' :: '\n' :: text)) =
      (statements? fuel text).map (.table [String.ofList key] :: ·) :=
  statements?_cons rfl (by decide) (statement?_table bare _)

theorem statements?_assign (bare : IsBare key) (written : IsWritten line value) (fuel : Nat)
    (text : Text) :
    statements? (fuel + 1) (key ++ ' ' :: '=' :: ' ' :: (line ++ '\n' :: text)) =
      (statements? fuel text).map (.assign [String.ofList key] value :: ·) := by
  have read := statement?_assign bare written text
  obtain ⟨first, others, rfl, differs⟩ := bare.exists_first
  exact statements?_cons (by simp [isInlineBlank, differs ' ' rfl, differs '\t' rfl])
    ⟨differs '#' rfl, differs '\n' rfl, differs '\r' rfl⟩ read

/-- What is written line by line is read back. -/
theorem statements?_of_written (written : Written text later) (enough : text.length < fuel) :
    statements? fuel text = some later := by
  induction written generalizing fuel with
  | done =>
      obtain ⟨fuel, rfl⟩ := Nat.exists_eq_add_one_of_ne_zero (Nat.ne_zero_of_lt enough)
      rfl
  | blank rest ih =>
      obtain ⟨fuel, rfl⟩ := Nat.exists_eq_add_one_of_ne_zero (Nat.ne_zero_of_lt enough)
      simp only [List.length_cons] at enough
      rw [statements?_blank, ih (by omega)]
  | comment ordinary rest ih =>
      obtain ⟨fuel, rfl⟩ := Nat.exists_eq_add_one_of_ne_zero (Nat.ne_zero_of_lt enough)
      simp only [List.length_cons, List.length_append] at enough
      rw [statements?_comment ordinary, ih (by omega)]
  | table bare rest ih =>
      obtain ⟨fuel, rfl⟩ := Nat.exists_eq_add_one_of_ne_zero (Nat.ne_zero_of_lt enough)
      simp only [List.length_cons, List.length_append] at enough
      rw [statements?_table bare, ih (by omega)]
      rfl
  | assign bare written rest ih =>
      obtain ⟨fuel, rfl⟩ := Nat.exists_eq_add_one_of_ne_zero (Nat.ne_zero_of_lt enough)
      simp only [List.length_cons, List.length_append] at enough
      rw [statements?_assign bare written, ih (by omega)]
      rfl

end ShaderVariants.Toml
