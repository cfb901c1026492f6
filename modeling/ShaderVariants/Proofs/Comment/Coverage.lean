import Mathlib.Algebra.Ring.Nat
import ShaderVariants.Proofs.Comment.Parts
import ShaderVariants.Text.Utf8

/-!
What the spans of a text cover.

`Covers` says that spans cover comments of a text, one behind the other.  The search finds such
spans (`covers_spansFrom`), and everything about their order and about the bytes between them is
proved by induction on it.
-/
namespace ShaderVariants

open Text

theorem Utf8.length_encode (text : Text) : (encode text).length = size text := by
  induction text with
  | nil => rfl
  | cons c rest ih =>
      rw [size_cons, ← ih, encode, List.flatMap_cons, List.length_append,
        String.length_utf8EncodeChar]
      rfl

namespace Comment

variable {offset : Nat} {text front body rest : Text} {spans : List Span} {span : Span}

/-- Whether the span covers a comment that ends with a marker of its own, and not with the text. -/
def Terminated (text : Text) (span : Span) : Prop :=
  ∃ front body rest, text = front ++ (opening ++ (body ++ (closing ++ rest))) ∧
    span = ⟨size front, size front + size (opening ++ (body ++ closing))⟩

/-- The spans cover comments of the text that starts at byte `offset`, one behind the other.  A
comment without its own end is followed by no more text. -/
inductive Covers : Nat → Text → List Span → Prop where
  | plain (offset : Nat) (text : Text) : Covers offset text []
  | comment {rest : Text} {later : List Span} (offset : Nat) (before covered : Text)
      (begins : opening <+: covered)
      (ended : (∃ body, covered = opening ++ (body ++ closing)) ∨ rest = [])
      (behind : Covers (offset + size before + size covered) rest later) :
      Covers offset (before ++ (covered ++ rest))
        (⟨offset + size before, offset + size before + size covered⟩ :: later)

theorem two_le_size_of_opening {covered : Text} (begins : opening <+: covered) :
    2 ≤ size covered := by
  obtain ⟨body, rfl⟩ := begins
  rw [size_append]
  exact Nat.le_add_right 2 (size body)

namespace Covers

theorem prepend (covers : Covers (offset + size front) text spans) :
    Covers offset (front ++ text) spans := by
  generalize start : offset + size front = place at covers
  cases covers with
  | plain place text => exact .plain offset _
  | @comment rest later place before covered begins ended behind =>
      subst start
      have moved : offset + size front + size before = offset + size (front ++ before) := by
        rw [size_append, Nat.add_assoc]
      rw [moved] at behind ⊢
      rw [← List.append_assoc]
      exact .comment offset (front ++ before) covered begins ended behind

/-- Each span is the place of a part of the text. -/
theorem part (covers : Covers offset text spans) (member : span ∈ spans) :
    ∃ front covered rest, text = front ++ (covered ++ rest) ∧
      span = ⟨offset + size front, offset + size front + size covered⟩ ∧ 2 ≤ size covered := by
  induction covers with
  | plain offset text => cases member
  | @comment rest later offset before covered begins ended behind ih =>
      rcases List.mem_cons.mp member with rfl | below
      · exact ⟨before, covered, rest, rfl, rfl, two_le_size_of_opening begins⟩
      · obtain ⟨front, inside, tail, rfl, rfl, length⟩ := ih below
        refine ⟨before ++ covered ++ front, inside, tail, ?_, ?_, length⟩
        · simp only [List.append_assoc]
        · simp only [size_append, Nat.add_assoc]

theorem le_start (covers : Covers offset text spans) (member : span ∈ spans) :
    offset ≤ span.start := by
  obtain ⟨front, covered, rest, -, rfl, -⟩ := covers.part member
  exact Nat.le_add_right offset (size front)

theorem pairwise (covers : Covers offset text spans) :
    spans.Pairwise fun earlier later => earlier.stop ≤ later.start := by
  induction covers with
  | plain offset text => exact .nil
  | comment offset before covered begins ended behind ih =>
      exact .cons (fun span member => behind.le_start member) ih

/-- A comment that is not the last one ends with its own marker. -/
theorem terminated (covers : Covers offset text spans) (member : span ∈ spans.dropLast) :
    ∃ front body rest, text = front ++ (opening ++ (body ++ (closing ++ rest))) ∧
      span = ⟨offset + size front, offset + size front + size (opening ++ (body ++ closing))⟩ := by
  induction covers with
  | plain offset text => cases member
  | @comment rest later offset before covered begins ended behind ih =>
      cases later with
      | nil => cases member
      | cons next more =>
          rcases List.mem_cons.mp member with rfl | below
          · obtain ⟨body, rfl⟩ : ∃ body, covered = opening ++ (body ++ closing) := by
              refine ended.resolve_right fun nothing => ?_
              obtain ⟨front, inside, tail, whole, -, length⟩ := behind.part List.mem_cons_self
              have empty := congrArg size (nothing.symm.trans whole)
              simp only [size_append, size_nil] at empty
              omega
            exact ⟨before, body, rest, by simp only [List.append_assoc], rfl⟩
          · obtain ⟨front, body, tail, rfl, rfl⟩ := ih below
            refine ⟨before ++ covered ++ front, body, tail, ?_, ?_⟩
            · simp only [List.append_assoc]
            · simp only [size_append, Nat.add_assoc]

end Covers

theorem length_span (start length : Nat) : Span.length ⟨start, start + length⟩ = length :=
  Nat.add_sub_cancel_left start length

/-- Leaving a span out takes away the part that it covers. -/
theorem without_comment (offset : Nat) (before covered rest : Text) (later : List Span) :
    without offset (⟨offset + size before, offset + size before + size covered⟩ :: later)
        (before ++ (covered ++ rest)) =
      before ++ without (offset + size before + size covered) later rest := by
  have kept : offset + size before - offset = size before := Nat.add_sub_cancel_left offset _
  rw [without, length_span, kept, ← size_append, takeBytes_append, ← List.append_assoc,
    dropBytes_append]

/-- The bytes that no span covers, where the first one stands at `offset`. -/
def uncovered (spans : List Span) (offset : Nat) (bytes : Bytes) : Bytes :=
  ((bytes.zipIdx offset).filter fun (_, place) => outside spans place).map Prod.fst

theorem uncovered_append (spans : List Span) (offset : Nat) (front back : Text) :
    uncovered spans offset (Utf8.encode (front ++ back)) =
      uncovered spans offset (Utf8.encode front) ++
        uncovered spans (offset + size front) (Utf8.encode back) := by
  have bytes : Utf8.encode (front ++ back) = Utf8.encode front ++ Utf8.encode back :=
    List.flatMap_append
  rw [bytes, uncovered, List.zipIdx_append, List.filter_append, List.map_append,
    Utf8.length_encode]
  rfl

theorem uncovered_of_outside {bytes : Bytes}
    (apart : ∀ place, offset ≤ place → place < offset + bytes.length → outside spans place = true) :
    uncovered spans offset bytes = bytes := by
  rw [uncovered, List.filter_eq_self.mpr, List.zipIdx_map_fst]
  rintro ⟨byte, place⟩ member
  obtain ⟨behind, ahead, -⟩ := List.mem_zipIdx member
  exact apart place behind ahead

theorem uncovered_of_inside {bytes : Bytes}
    (within : ∀ place, offset ≤ place → place < offset + bytes.length →
      outside spans place = false) : uncovered spans offset bytes = [] := by
  rw [uncovered, List.filter_eq_nil_iff.mpr, List.map_nil]
  rintro ⟨byte, place⟩ member
  obtain ⟨behind, ahead, -⟩ := List.mem_zipIdx member
  simp [within place behind ahead]

theorem uncovered_behind {bytes : Bytes} (passed : span.stop ≤ offset) :
    uncovered (span :: spans) offset bytes = uncovered spans offset bytes := by
  unfold uncovered
  refine congrArg _ (List.filter_congr ?_)
  rintro ⟨byte, place⟩ member
  have behind := (List.mem_zipIdx member).1
  have apart : span.contains place = false := by
    simp only [Span.contains, Bool.and_eq_false_iff, decide_eq_false_iff_not]
    omega
  simp [outside, apart]

namespace Covers

/-- What is left without the spans are the bytes that none of them covers. -/
theorem encode_without (covers : Covers offset text spans) :
    Utf8.encode (without offset spans text) = uncovered spans offset (Utf8.encode text) := by
  induction covers with
  | plain offset text => exact (uncovered_of_outside fun place _ _ => rfl).symm
  | @comment rest later offset before covered begins ended behind ih =>
      have split (kept : Text) :
          Utf8.encode (before ++ kept) = Utf8.encode before ++ Utf8.encode kept :=
        List.flatMap_append
      rw [without_comment, split, ih, uncovered_append, uncovered_append]
      have front : uncovered
          (⟨offset + size before, offset + size before + size covered⟩ :: later) offset
            (Utf8.encode before) = Utf8.encode before := by
        refine uncovered_of_outside fun place _ ahead => ?_
        rw [Utf8.length_encode] at ahead
        simp only [outside, Bool.not_eq_true', List.any_eq_false, Span.contains, Bool.and_eq_true,
          decide_eq_true_eq]
        intro span member
        rcases List.mem_cons.mp member with rfl | below
        · show ¬(offset + size before ≤ place ∧ _)
          omega
        · have begins := behind.le_start below
          omega
      have middle : uncovered
          (⟨offset + size before, offset + size before + size covered⟩ :: later)
            (offset + size before) (Utf8.encode covered) = [] := by
        refine uncovered_of_inside fun place begun ahead => ?_
        rw [Utf8.length_encode] at ahead
        simp [outside, Span.contains, begun, ahead]
      rw [front, middle, uncovered_behind (by rfl), List.nil_append]

theorem size_without (covers : Covers offset text spans) :
    size (without offset spans text) + (spans.map Span.length).sum = size text := by
  induction covers with
  | plain offset text => rfl
  | @comment rest later offset before covered begins ended behind ih =>
      rw [without_comment, List.map_cons, List.sum_cons, length_span]
      simp only [size_append]
      omega

end Covers

/-- The search finds spans that cover comments. -/
theorem covers_spansFrom (offset : Nat) (text : Text) :
    Covers offset text (spansFrom offset text) := by
  fun_induction spansFrom offset text with
  | case1 offset text absent => exact .plain offset text
  | case2 offset text before body found start inner hidden ih =>
      have whole : text = before ++ opening ++ firstLine body ++ fromLineEnd body := by
        rw [List.append_assoc, firstLine_append_fromLineEnd, eq_append_of_cut? found]
      have moved : inner + size (firstLine body) =
          offset + size (before ++ opening ++ firstLine body) := by
        simp only [inner, start, size_append, Nat.add_assoc]
      rw [moved] at ih ⊢
      conv =>
        arg 2
        rw [whole]
      exact ih.prepend
  | case3 offset text before body found start inner live absent =>
      have whole : text = before ++ ((opening ++ body) ++ []) := by
        rw [List.append_nil, ← List.append_assoc, eq_append_of_cut? found]
      have stop : inner + size body = offset + size before + size (opening ++ body) := by
        rw [size_append, ← Nat.add_assoc]
      rw [stop, whole]
      exact .comment offset before _ (List.prefix_append opening body) (.inr rfl) (.plain _ [])
  | case4 offset text before body found start inner live inside after closes stop ih =>
      have whole : text = before ++ ((opening ++ (inside ++ closing)) ++ after) := by
        rw [eq_append_of_cut? found, eq_append_of_cut? closes]
        simp only [List.append_assoc]
      have moved : stop = offset + size before + size (opening ++ (inside ++ closing)) := by
        simp only [stop, inner, start, size_append, Nat.add_assoc]
      rw [moved] at ih ⊢
      conv =>
        arg 2
        rw [whole]
      exact .comment offset before _ (List.prefix_append opening _) (.inl ⟨inside, rfl⟩) ih

end Comment

end ShaderVariants
