import ShaderVariants.Proofs.Compiler.Runs
import ShaderVariants.Proofs.Text.LineDecoding
import ShaderVariants.Proofs.Text.Lines
import ShaderVariants.Proofs.Text.Trim

/-!
What a run of the compiler leaves, read from all that was printed at once.

The output is decoded line by line as it comes in, and gathered in a buffer that all runs share.
`unify` is about the text of the whole output, decoded at once.  The two agree (`ofBytes_eq`), and
`unify` leaves its own result alone (`unify_unify`).  An `Invoker` is what keeps the buffer from run
to run; none of its runs shows a trace of another (`runStage_snd`).
-/
namespace ShaderVariants

namespace CompilerOutput

variable {line : Bytes} {text : Text} {lines : List Text}

/-- The lines of a text without the carriage returns at their ends, if anything is left of them. -/
def filledLines (text : Text) : List Text :=
  ((text.splitOn '\n').map (Text.trimEnd (· = '\r'))).filter fun line => !line.isEmpty

def join (lines : List Text) : Text :=
  lines.flatMap (· ++ ['\n'])

/-- A text with its ends of lines unified and its empty lines dropped. -/
def unify (text : Text) : Text :=
  join (filledLines text)

theorem rawLines_of_unbroken (unbroken : lineFeed ∉ line) (nonempty : line ≠ []) :
    rawLines line = [line] := by
  induction line with
  | nil => exact absurd rfl nonempty
  | cons byte line ih =>
      simp only [List.mem_cons, not_or] at unbroken
      rw [rawLines, List.foldr_cons, if_neg (Ne.symm unbroken.1), ← rawLines]
      cases line with
      | nil => rfl
      | cons next line => rw [ih unbroken.2 (List.cons_ne_nil next line)]

theorem rawLines_line (unbroken : lineFeed ∉ line) (rest : Bytes) :
    rawLines (line ++ lineFeed :: rest) = (line ++ [lineFeed]) :: rawLines rest := by
  induction line with
  | nil => rfl
  | cons byte line ih =>
      simp only [List.mem_cons, not_or] at unbroken
      rw [List.cons_append, rawLines, List.foldr_cons, if_neg (Ne.symm unbroken.1), ← rawLines,
        ih unbroken.2]
      rfl

theorem decodeLine_of_unbroken (unbroken : lineFeed ∉ line) :
    decodeLine line = Text.trimEnd (· = '\r') (Utf8.decodeLossy line) := by
  -- No line break is left to be trimmed, only carriage returns are.
  refine Text.trimEnd_congr fun c member => ?_
  have other : c ≠ '\n' := fun same => Utf8.decodeLossy_unbroken unbroken (same ▸ member)
  simp [other]

theorem decodeLine_lineFeed (unbroken : lineFeed ∉ line) :
    decodeLine (line ++ [lineFeed]) = decodeLine line := by
  rw [decodeLine, Utf8.decodeLossy_line unbroken, Text.trimEnd_append, decodeLine]
  simp [Utf8.decodeLossy, Utf8.parts, Utf8.Decoder.finish]

theorem filledLines_of_unbroken (unbroken : '\n' ∉ text) :
    filledLines text = [Text.trimEnd (· = '\r') text].filter fun line => !line.isEmpty := by
  rw [filledLines, List.splitOn_eq_singleton unbroken, List.map_singleton]

theorem filledLines_line (unbroken : '\n' ∉ text) (rest : Text) :
    filledLines (text ++ '\n' :: rest) = filledLines text ++ filledLines rest := by
  rw [filledLines_of_unbroken unbroken, filledLines,
    List.splitOn_append_cons_self_of_not_mem unbroken, List.map_cons, ← List.singleton_append,
    List.filter_append, ← filledLines]

/-- Cutting the bytes and decoding the lines is decoding the bytes and cutting the text. -/
theorem filter_decodeLine_rawLines (bytes : Bytes) :
    ((rawLines bytes).map decodeLine).filter (fun line => !line.isEmpty) =
      filledLines (Utf8.decodeLossy bytes) := by
  induction bytes using Utf8.bytes_induction with
  | last line unbroken =>
      rw [filledLines_of_unbroken (Utf8.decodeLossy_unbroken unbroken),
        ← decodeLine_of_unbroken unbroken]
      -- Of no bytes there is no line, but of no text there is an empty one, which is dropped.
      by_cases empty : line = []
      · rw [empty]
        rfl
      · rw [rawLines_of_unbroken unbroken empty, List.map_singleton]
  | next line rest unbroken ih =>
      have decoded := Utf8.decodeLossy_unbroken unbroken
      rw [Utf8.decodeLossy_line unbroken, filledLines_line decoded, rawLines_line unbroken,
        List.map_cons, ← List.singleton_append, List.filter_append, ih,
        decodeLine_lineFeed unbroken, decodeLine_of_unbroken unbroken,
        filledLines_of_unbroken decoded]

/-- A line as it is kept: there is something on it, and it needs no trimming. -/
structure Filled (line : Text) : Prop where
  unbroken : '\n' ∉ line
  nonempty : line ≠ []
  trimmed : Text.trimEnd (· = '\r') line = line

theorem filled_of_unbroken (unbroken : '\n' ∉ text) : ∀ line ∈ filledLines text, Filled line := by
  intro line member
  rw [filledLines_of_unbroken unbroken, List.mem_filter, List.mem_singleton] at member
  obtain ⟨rfl, filled⟩ := member
  refine ⟨fun broken => unbroken ((Text.prefix_trimEnd _ text).mem broken), ?_, ?_⟩
  · simpa using filled
  · exact List.rdropWhile_idempotent _ text

theorem filled_of_mem_filledLines (text : Text) : ∀ line ∈ filledLines text, Filled line := by
  induction text using Text.lines_induction with
  | last line unbroken => exact filled_of_unbroken unbroken
  | next line rest unbroken ih =>
      rw [filledLines_line unbroken]
      exact List.forall_mem_append.mpr ⟨filled_of_unbroken unbroken, ih⟩

theorem filledLines_join (filled : ∀ line ∈ lines, Filled line) :
    filledLines (join lines) = lines := by
  induction lines with
  | nil => rfl
  | cons line lines ih =>
      obtain ⟨first, others⟩ := List.forall_mem_cons.mp filled
      rw [join, List.flatMap_cons, ← join, List.append_assoc, List.singleton_append,
        filledLines_line first.unbroken, ih others, filledLines_of_unbroken first.unbroken,
        first.trimmed]
      simp [first.nonempty]

theorem count_join (filled : ∀ line ∈ lines, Filled line) :
    (join lines).count '\n' = lines.length := by
  induction lines with
  | nil => rfl
  | cons line lines ih =>
      obtain ⟨first, others⟩ := List.forall_mem_cons.mp filled
      rw [join, List.flatMap_cons, ← join, List.count_append, List.count_append, ih others,
        List.count_eq_zero.mpr first.unbroken, List.length_cons, List.count_singleton_self]
      omega

theorem ofBytes_eq (bytes : Bytes) :
    ofBytes bytes =
      ⟨unify (Utf8.decodeLossy bytes), (unify (Utf8.decodeLossy bytes)).count '\n'⟩ := by
  rw [ofBytes, filter_decodeLine_rawLines, unify, count_join (filled_of_mem_filledLines _)]
  rfl

-- A character cut short by the end of its line is one malformed part of that line.
example : ofBytes [0x61, 0x0D, 0x0D, 0x0A, 0x0D, 0x0A, 0xE2, 0x82, 0x0A, 0x62] =
    ⟨['a', '\n', '\uFFFD', '\n', 'b', '\n'], 3⟩ := by
  decide

theorem unify_unify (text : Text) : unify (unify text) = unify text := by
  rw [unify, unify, filledLines_join (filled_of_mem_filledLines text)]

end CompilerOutput

/-- Runs the compiler that is chosen; the buffer is kept from run to run. -/
structure Invoker where
  target : CompilerTarget
  buffer : CompilerOutput

namespace Invoker

/-- What an invoker goes through: another compiler is chosen, or a stage is run.  A run may be of
any stage, and may have failed, when it began or after all was printed. -/
inductive Event where
  | retarget (target : CompilerTarget)
  | run (attempt : Attempt)

def new (target : CompilerTarget) : Invoker :=
  ⟨target, ⟨[], 0⟩⟩

def runStage (invoker : Invoker) (attempt : Attempt) :
    Invoker × Except CompilerError StageOutput :=
  let buffer := attempt.collect invoker.buffer
  ({ invoker with buffer },
    attempt.ended.map fun exit? => ⟨String.ofList buffer.text, buffer.lines, exit?⟩)

def handle (invoker : Invoker) : Event → Invoker
  | .retarget target => { invoker with target }
  | .run attempt => (invoker.runStage attempt).1

def after (invoker : Invoker) (history : List Event) : Invoker :=
  history.foldl handle invoker

theorem runStage_snd (invoker : Invoker) (attempt : Attempt) :
    (invoker.runStage attempt).2 =
      attempt.ended.map fun exit? =>
        let text := CompilerOutput.unify (Utf8.decodeLossy attempt.printed)
        ⟨String.ofList text, text.count '\n', exit?⟩ := by
  rw [runStage, attempt.collect_eq, CompilerOutput.ofBytes_eq]

theorem runStage_attempt (invoker : Invoker) (machine : Machine) (path : Path) (stage : Stage) :
    (invoker.runStage (invoker.target.attempt machine path stage)).2 =
      invoker.target.run machine path stage := by
  rw [runStage, Attempt.collect_eq, CompilerTarget.attempt, CompilerTarget.run]
  cases machine.files.launch machine.environment.searchPath invoker.target.program
    (CompilerTarget.arguments stage path) <;> rfl

/-- Whatever came before it, a run leaves all that was printed, decoded at once and then unified.
That much is left again by any later run that prints it.  The runs are those of the compiler on a
machine. -/
theorem runStage_unifies (target : CompilerTarget) (history : List Event) (printed : Bytes)
    (exit? : Option Int) :
    let invoker := (new target).after history
    let run := invoker.runStage ⟨printed, .ok exit?⟩
    let text := CompilerOutput.unify (Utf8.decodeLossy printed)
    run.2 = .ok ⟨String.ofList text, text.count '\n', exit?⟩ ∧
      (∀ (later : List Event) (exit? : Option Int),
        ((run.1.after later).runStage ⟨Utf8.encode text, .ok exit?⟩).2 =
          .ok ⟨String.ofList text, text.count '\n', exit?⟩) ∧
      ∀ (machine : Machine) (path : Path) (stage : Stage),
        (invoker.runStage (invoker.target.attempt machine path stage)).2 =
          invoker.target.run machine path stage := by
  refine ⟨runStage_snd _ _, fun later exit? => ?_, runStage_attempt _⟩
  rw [runStage_snd, Utf8.decodeLossy_encode, CompilerOutput.unify_unify]
  rfl

end Invoker

end ShaderVariants
