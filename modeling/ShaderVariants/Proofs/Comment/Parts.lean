import ShaderVariants.Comment
import ShaderVariants.Proofs.Comment.Agreement
import ShaderVariants.Proofs.Text.Bytes

/-!
What is left of a text without its block comments.

`Parts` says that a text consists of characters that are kept and of the parts that spans cover, one
after the other.  The lexer divides every text in this way, and a text that is so divided has the
kept characters left when the spans are left out.
-/
namespace ShaderVariants.Comment

open Text

/-- Each character under the byte offset at which it starts. -/
def located (offset : Nat) : Text → List (Nat × Char)
  | [] => []
  | c :: rest => (offset, c) :: located (offset + c.utf8Size) rest

/-- Whether a byte belongs to none of the spans. -/
def outside (spans : List Span) (offset : Nat) : Bool :=
  !spans.any (·.contains offset)

/-- The characters that no block comment covers, under their offsets in the whole text. -/
def kept (text : Text) : List (Nat × Char) :=
  (located 0 text).filter fun (offset, _) => outside (spans text) offset

/-- The text from byte `offset` on consists of the characters in `left` and of the parts that the
spans cover. -/
inductive Parts : Nat → Text → List Span → List (Nat × Char) → Prop where
  | done (offset : Nat) : Parts offset [] [] []
  | keep {offset : Nat} {text : Text} {spans : List Span} {left : List (Nat × Char)} (c : Char)
      (rest : Parts (offset + c.utf8Size) text spans left) :
      Parts offset (c :: text) spans ((offset, c) :: left)
  | drop {offset : Nat} {text : Text} {spans : List Span} {left : List (Nat × Char)}
      (covered : Text) (rest : Parts (offset + size covered) text spans left) :
      Parts offset (covered ++ text) (⟨offset, offset + size covered⟩ :: spans) left

theorem located_append (offset : Nat) (front back : Text) :
    located offset (front ++ back) =
      located offset front ++ located (offset + size front) back := by
  induction front generalizing offset with
  | nil => rfl
  | cons c front ih => simp only [List.cons_append, located, ih, size_cons, Nat.add_assoc]

theorem bounds_of_mem_located {offset place : Nat} {text : Text} {c : Char}
    (member : (place, c) ∈ located offset text) : offset ≤ place ∧ place < offset + size text := by
  induction text generalizing offset with
  | nil => cases member
  | cons first rest ih =>
      have positive := first.utf8Size_pos
      rw [size_cons]
      rcases List.mem_cons.mp member with same | later
      · cases same
        omega
      · have bounds := ih later
        omega

namespace Parts

variable {offset : Nat} {text : Text} {spans : List Span} {left : List (Nat × Char)}

theorem keep_size {c : Char} (rest : Parts (offset + size [c]) text spans left) :
    Parts offset (c :: text) spans ((offset, c) :: left) := by
  rw [size_cons, size_nil, Nat.add_zero] at rest
  exact .keep c rest

theorem le_start (parts : Parts offset text spans left) {span : Span} (member : span ∈ spans) :
    offset ≤ span.start := by
  induction parts with
  | done offset => cases member
  | keep c rest ih =>
      have later := ih member
      omega
  | drop covered rest ih =>
      rcases List.mem_cons.mp member with rfl | member
      · exact Nat.le_refl _
      · have later := ih member
        omega

theorem without_eq (parts : Parts offset text spans left) :
    without offset spans text = left.map Prod.snd := by
  induction parts with
  | done offset => rfl
  | @keep offset text spans left c rest ih =>
      have positive := c.utf8Size_pos
      rw [List.map_cons, ← ih]
      cases spans with
      | nil => rfl
      | cons span later =>
          have begins := rest.le_start (List.mem_cons_self)
          have front : span.start - offset - c.utf8Size =
              span.start - (offset + c.utf8Size) := by omega
          have whole : span.start - offset + span.length - c.utf8Size =
              span.start - (offset + c.utf8Size) + span.length := by omega
          rw [without, takeBytes, dropBytes, if_neg (by omega), if_neg (by omega), front, whole]
          rfl
  | @drop offset text spans left covered rest ih =>
      have length :
          offset - offset + Span.length ⟨offset, offset + size covered⟩ = size covered := by
        simp [Span.length]
      have nothing : takeBytes (offset - offset) (covered ++ text) = [] := by
        rw [Nat.sub_self]
        exact takeBytes_append [] (covered ++ text)
      rw [without, length, nothing, dropBytes_append, ih]
      rfl

theorem filter_eq (parts : Parts offset text spans left) :
    (located offset text).filter (fun (place, _) => outside spans place) = left := by
  induction parts with
  | done offset => rfl
  | @keep offset text spans left c rest ih =>
      have positive := c.utf8Size_pos
      have uncovered : outside spans offset = true := by
        simp only [outside, Bool.not_eq_true', List.any_eq_false]
        intro span member
        have begins := rest.le_start member
        simp only [Span.contains, Bool.and_eq_true, decide_eq_true_eq]
        omega
      rw [located, List.filter_cons_of_pos (by exact uncovered), ih]
  | @drop offset text spans left covered rest ih =>
      rw [located_append, List.filter_append]
      have removed : (located offset covered).filter
          (fun (place, _) => outside (⟨offset, offset + size covered⟩ :: spans) place) = [] := by
        rw [List.filter_eq_nil_iff]
        rintro ⟨place, c⟩ member
        have bounds := bounds_of_mem_located member
        simp [outside, Span.contains, bounds]
      have untouched : (located (offset + size covered) text).filter
          (fun (place, _) => outside (⟨offset, offset + size covered⟩ :: spans) place) =
            (located (offset + size covered) text).filter
              (fun (place, _) => outside spans place) := by
        refine List.filter_congr ?_
        rintro ⟨place, c⟩ member
        have bounds := bounds_of_mem_located member
        have behind : Span.contains ⟨offset, offset + size covered⟩ place = false := by
          simp [Span.contains, bounds]
        simp [outside, behind]
      rw [removed, untouched, ih, List.nil_append]

end Parts

/-- The characters of the lexemes that are no parts of block comments, each with its offset and with
what the lexer is inside of there. -/
def survivors (offset : Nat) : List Lexeme → List (Nat × Char × Mode)
  | [] => []
  | lexeme :: rest =>
      let later := survivors (offset + size lexeme.text) rest
      if lexeme.mode = .blockComment then later
      else (located offset lexeme.text).map (fun (place, c) => (place, c, lexeme.mode)) ++ later

theorem modeAt?_of_mem_survivors {offset place : Nat} {c : Char} {mode : Mode}
    {lexemes : List Lexeme} (member : (place, c, mode) ∈ survivors offset lexemes) :
    offset ≤ place ∧ modeAt? (place - offset) lexemes = some mode := by
  induction lexemes generalizing offset with
  | nil => cases member
  | cons lexeme rest ih =>
      have later (member : (place, c, mode) ∈ survivors (offset + size lexeme.text) rest) :
          offset ≤ place ∧ modeAt? (place - offset) (lexeme :: rest) = some mode := by
        obtain ⟨behind, found⟩ := ih member
        refine ⟨by omega, ?_⟩
        rw [modeAt?, if_neg (by omega), Nat.sub_sub]
        exact found
      rw [survivors] at member
      split at member
      · exact later member
      · rcases List.mem_append.mp member with here | member
        · obtain ⟨⟨_, _⟩, inside, same⟩ := List.mem_map.mp here
          cases same
          have bounds := bounds_of_mem_located inside
          refine ⟨bounds.1, ?_⟩
          rw [modeAt?, if_pos (by omega)]
        · exact later member

/-- The lexer divides what is ahead of it; `pending` is what it has read of the block comment that
it is inside of, and that comment began at byte `start`. -/
theorem parts_lex (mode : Mode) (ahead : Text) (start : Nat) (pending : Text)
    (settled : mode ≠ .blockComment → pending = []) :
    Parts start (pending ++ ahead)
      (commentsFrom (start + size pending) (if mode = .blockComment then some start else none)
        (lex mode ahead))
      ((survivors (start + size pending) (lex mode ahead)).map
        fun (place, c, _) => (place, c)) := by
  fun_induction lex mode ahead generalizing start pending with
  | case1 mode =>
      cases mode with
      | code =>
          rw [settled (by decide)]
          exact .done start
      | lineComment =>
          rw [settled (by decide)]
          exact .done start
      | blockComment => exact .drop pending (.done _)
  | case2 rest ih =>
      rw [settled (by decide)]
      exact .keep '/' (.keep '/' (ih (start + size lineMarker) [] fun _ => rfl))
  | case3 rest ih =>
      rw [settled (by decide)]
      exact ih start opening (by simp)
  | case4 c rest noLine noBlock ih =>
      rw [settled (by decide)]
      exact .keep_size (ih (start + size [c]) [] fun _ => rfl)
  | case5 rest ih =>
      rw [settled (by decide)]
      exact .keep_size (ih (start + size ['\n']) [] fun _ => rfl)
  | case6 c rest inside ih =>
      rw [settled (by decide)]
      exact .keep_size (ih (start + size [c]) [] fun _ => rfl)
  | case7 rest ih =>
      have later := ih (start + size (pending ++ closing)) [] fun _ => rfl
      have whole := Parts.drop (pending ++ closing) later
      rw [List.append_assoc, size_append, ← Nat.add_assoc] at whole
      exact whole
  | case8 c rest inside ih =>
      have later := ih start (pending ++ [c]) (by simp)
      rw [List.append_assoc, size_append, ← Nat.add_assoc] at later
      exact later

theorem parts_spans (text : Text) :
    Parts 0 text (spans text)
      ((survivors 0 (lex .code text)).map fun (place, c, _) => (place, c)) := by
  rw [spans_eq_comments]
  exact parts_lex .code text 0 [] fun _ => rfl

theorem kept_eq_survivors (text : Text) :
    kept text = (survivors 0 (lex .code text)).map fun (place, c, _) => (place, c) :=
  (parts_spans text).filter_eq

/-- Leaving the comments out keeps exactly the characters that none of them covers. -/
theorem strip_eq_kept (text : Text) : strip text = (kept text).map Prod.snd := by
  rw [strip, (parts_spans text).without_eq, kept_eq_survivors]

end ShaderVariants.Comment
