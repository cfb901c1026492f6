import ShaderVariants.Proofs.Variant.Preamble

/-!
Version lines, found as matches of a pattern.

A `Match` is what the pattern of a version directive covers, and `Replaced` takes matches out from
left to right, going on behind each of them.  A match begins and ends where a line does, so that
leaves out whole lines (`replaced_iff`).  A version line put on top is then the only one, and it
goes when the next one is put there (`withVersion_filters`).
-/
namespace ShaderVariants.Preamble

open Text

variable {code line before found after other result rest : Text}

/-- `found` is a version directive between `before` and `after`: it begins where a line does and
covers that line, with the line break if there is one. -/
structure Match (before found after : Text) : Prop where
  begins : Closed before
  covers : ∃ indent gap tail ending,
    found = indent ++ '#' :: (gap ++ (versionWord ++ (tail ++ ending))) ∧
    (∀ c ∈ indent, isIndent c = true) ∧ (∀ c ∈ gap, isIndent c = true) ∧
    wordEnds (tail ++ (ending ++ after)) = true ∧ '\n' ∉ tail ∧
    (ending = ['\n'] ∨ ending = [] ∧ after = [])

/-- What is left of `code`, which stands behind `before`, when it is read from left to right and
every match on the way is taken out. -/
inductive Replaced : (before code result : Text) → Prop where
  | done {before : Text} : Replaced before [] []
  | pass {before rest result : Text} {c : Char}
      (unmatched : ∀ found after, c :: rest = found ++ after → ¬ Match before found after)
      (later : Replaced (before ++ [c]) rest result) : Replaced before (c :: rest) (c :: result)
  | remove {before code found after result : Text} (parts : code = found ++ after)
      (matched : Match before found after) (later : Replaced (before ++ found) after result) :
      Replaced before code result

theorem Match.isVersionLine (matched : Match before found after) :
    IsVersionLine (found ++ after) := by
  obtain ⟨indent, gap, tail, ending, rfl, indent_blank, gap_blank, ends, -⟩ := matched.covers
  refine ⟨indent, gap, tail ++ (ending ++ after), ?_, indent_blank, gap_blank, ends⟩
  simp only [List.append_assoc, List.cons_append]

theorem not_mem_blanks {blanks : Text} (blank : ∀ c ∈ blanks, isIndent c = true) :
    '\n' ∉ blanks := by
  intro member
  cases blank _ member

/-- A match is the first line of what it is found in. -/
theorem Match.lines_eq (matched : Match before found after) :
    lines (found ++ after) = found :: lines after := by
  obtain ⟨indent, gap, tail, ending, whole, indent_blank, gap_blank, -, unbroken, ended⟩ :=
    matched.covers
  have clean : '\n' ∉ indent ++ '#' :: (gap ++ (versionWord ++ tail)) := by
    simp [not_mem_blanks indent_blank, not_mem_blanks gap_blank, versionWord, unbroken]
  have parts : found = (indent ++ '#' :: (gap ++ (versionWord ++ tail))) ++ ending := by
    rw [whole]
    simp only [List.append_assoc, List.cons_append]
  rcases ended with rfl | ⟨rfl, rfl⟩
  · rw [parts, List.append_assoc, List.singleton_append, lines_cons_line clean]
  · rw [List.append_nil] at parts ⊢
    rw [parts, lines_of_unbroken clean (by simp)]
    rfl

theorem match_line (begins : Closed before) (unbroken : '\n' ∉ line) (version : IsVersionLine line)
    (rest : Text) : Match before (line ++ ['\n']) rest := by
  obtain ⟨indent, gap, tail, rfl, indent_blank, gap_blank, ends⟩ := version
  refine ⟨begins, indent, gap, tail, ['\n'], ?_, indent_blank, gap_blank, ?_, ?_, .inl rfl⟩
  · simp only [List.append_assoc, List.cons_append]
  · rw [List.singleton_append, wordEnds_append_break, ends]
  · simp_all

theorem match_last (begins : Closed before) (unbroken : '\n' ∉ line)
    (version : IsVersionLine line) : Match before line [] := by
  obtain ⟨indent, gap, tail, rfl, indent_blank, gap_blank, ends⟩ := version
  refine ⟨begins, indent, gap, tail, [], ?_, indent_blank, gap_blank, ?_, ?_, .inr ⟨rfl, rfl⟩⟩
  · rw [List.append_nil]
  · rw [List.append_nil, List.append_nil, ends]
  · simp_all

theorem not_isVersionLine_break (rest : Text) : ¬ IsVersionLine ('\n' :: rest) := by
  rw [← versionAhead_iff]
  simp [versionAhead, isIndent]

theorem not_closed_concat {c : Char} (inside : c ≠ '\n') : ¬ Closed (before ++ [c]) :=
  fun closed => inside (closed c (by simp))

/-- Within a line no match begins, and at its beginning none does if it is no version line. -/
theorem Replaced.pass_line (unbroken : '\n' ∉ line)
    (kept : Closed before → ¬ IsVersionLine (line ++ rest))
    (later : Replaced (before ++ line) rest result) :
    Replaced before (line ++ rest) (line ++ result) := by
  induction line generalizing before with
  | nil => rwa [List.append_nil] at later
  | cons c line ih =>
      simp only [List.mem_cons, not_or] at unbroken
      refine .pass (fun found after parts matched => ?_) (ih unbroken.2 ?_ ?_)
      · have version := matched.isVersionLine
        rw [← parts] at version
        exact kept matched.begins version
      · exact fun closed => absurd closed (not_closed_concat (Ne.symm unbroken.1))
      · rwa [List.append_assoc, List.singleton_append]

theorem Replaced.pass_break (later : Replaced (before ++ ['\n']) rest result) :
    Replaced before ('\n' :: rest) ('\n' :: result) := by
  refine .pass (fun found after parts matched => ?_) later
  have version := matched.isVersionLine
  rw [← parts] at version
  exact not_isVersionLine_break rest version

theorem replaced_remove (begins : Closed before) (code : Text) :
    Replaced before code (remove .deciding code) := by
  induction code using lines_induction generalizing before with
  | last line unbroken =>
      rw [remove_last unbroken]
      split
      · next version =>
          exact .remove (List.append_nil line).symm (match_last begins unbroken version) .done
      · next kept =>
          have passed : Replaced before (line ++ []) (line ++ []) :=
            .pass_line unbroken (fun _ => by rwa [List.append_nil]) .done
          rwa [List.append_nil] at passed
  | next line rest unbroken ih =>
      have whole : line ++ '\n' :: rest = (line ++ ['\n']) ++ rest := by
        rw [List.append_assoc, List.singleton_append]
      rw [remove_line unbroken]
      split
      · next version =>
          exact .remove whole (match_line begins unbroken version rest)
            (ih (begins.append (closed_concat line)))
      · next kept =>
          rw [List.append_assoc, List.singleton_append]
          refine .pass_line unbroken (fun _ => ?_) (.pass_break ?_)
          · exact mt (isVersionLine_append_break line rest).mp kept
          · rw [List.append_assoc]
            exact ih (begins.append (closed_concat line))

theorem Match.unique {again left : Text} (matched : Match before found after)
    (same : found ++ after = again ++ left) (other : Match before again left) :
    found = again ∧ after = left := by
  have first := matched.lines_eq
  rw [same, other.lines_eq, List.cons.injEq] at first
  obtain ⟨rfl, -⟩ := first
  exact ⟨rfl, List.append_cancel_left same⟩

theorem Replaced.unique (replaced : Replaced before code result)
    (again : Replaced before code other) : result = other := by
  -- At each place there is either one match, and it has to go, or none.
  induction replaced generalizing other with
  | done =>
      cases again with
      | done => rfl
      | remove parts matched later =>
          have first := matched.lines_eq
          rw [← parts] at first
          cases first
  | pass unmatched later ih =>
      cases again with
      | pass also rest => rw [ih rest]
      | remove parts matched rest => exact absurd matched (unmatched _ _ parts)
  | @remove before code found after result parts matched later ih =>
      cases again with
      | done =>
          have first := matched.lines_eq
          rw [← parts] at first
          cases first
      | pass unmatched rest => exact absurd matched (unmatched _ _ parts)
      | remove also other_matched rest =>
          obtain ⟨rfl, rfl⟩ := matched.unique (parts.symm.trans also) other_matched
          exact ih rest

theorem replaced_iff (begins : Closed before) :
    Replaced before code result ↔ result = remove .deciding code := by
  constructor
  · exact fun replaced => replaced.unique (replaced_remove begins code)
  · rintro rfl
    exact replaced_remove begins code

theorem lines_remove (code : Text) :
    lines (remove .deciding code) = (lines code).filter fun line => ¬ IsVersionLine line := by
  induction code using lines_induction with
  | last line unbroken =>
      by_cases empty : line = []
      · rw [empty]
        rfl
      · rw [remove_last unbroken, lines_of_unbroken unbroken empty]
        split
        · next version => simp [version, lines]
        · next kept => simp [kept, lines_of_unbroken unbroken empty]
  | next line rest unbroken ih =>
      have same := isVersionLine_append_break line []
      rw [remove_line unbroken, lines_cons_line unbroken]
      split
      · next version => simp [ih, same.mpr version]
      · next kept =>
          rw [List.append_assoc, List.singleton_append, lines_cons_line unbroken, ih]
          simp [mt same.mp kept]

theorem remove_remove (code : Text) :
    remove .deciding (remove .deciding code) = remove .deciding code := by
  rw [remove_eq_filter (remove .deciding code), lines_remove, List.filter_filter]
  simp only [Bool.and_self]
  rw [← remove_eq_filter]

theorem withVersion_withVersion (unbroken : '\n' ∉ line) (version : IsVersionLine line)
    (code other : Text) : withVersion (withVersion code line) other = withVersion code other := by
  rw [withVersion, withVersion, remove_line unbroken, if_pos version, List.nil_append,
    remove_remove, withVersion]

/-- The line that is put on top, and below it the lines of the code that are no version lines, as
they are and in order: what is left of the code when all matches are taken out.  A version line on
top is then the only one, and the next one takes its place. -/
theorem withVersion_filters (code line : Text) :
    withVersion code line =
      line ++ '\n' :: ((lines code).filter fun below => ¬ IsVersionLine below).flatten ∧
    (∀ body, Replaced [] code body ↔ withVersion code line = line ++ '\n' :: body) ∧
    ('\n' ∉ line → IsVersionLine line →
      lines (withVersion code line) =
        (line ++ ['\n']) :: (lines code).filter (fun below => ¬ IsVersionLine below) ∧
      (lines (withVersion code line)).filter (fun each => IsVersionLine each) = [line ++ ['\n']] ∧
      (∀ other, withVersion (withVersion code line) other = withVersion code other) ∧
      withVersion (withVersion code line) line = withVersion code line) := by
  refine ⟨by rw [withVersion, remove_eq_filter], fun body => ?_, fun unbroken version => ?_⟩
  · rw [replaced_iff closed_nil, withVersion, List.append_cancel_left_eq, List.cons.injEq]
    exact ⟨fun same => ⟨rfl, same.symm⟩, fun same => same.2.symm⟩
  · have whole : lines (withVersion code line) =
        (line ++ ['\n']) :: (lines code).filter fun below => ¬ IsVersionLine below := by
      rw [withVersion, lines_cons_line unbroken, lines_remove]
    have top : IsVersionLine (line ++ ['\n']) := (isVersionLine_append_break line []).mpr version
    refine ⟨whole, ?_, withVersion_withVersion unbroken version code,
      withVersion_withVersion unbroken version code line⟩
    rw [whole, List.filter_cons_of_pos (by simpa using top), List.filter_filter]
    simp

theorem withVersion_filters_lookalikes :
    let code := "#version 300 es\n\t# version\t310\r\n#version310\n\nint x; #version\n".toList ++
      "#versionλ\n  #version".toList
    let line := "#version 310 es".toList
    let result := "#version 310 es\n#version310\n\nint x; #version\n#versionλ\n".toList
    withVersion code line = result ∧
      (lines result).filter (fun each => IsVersionLine each) = [line ++ ['\n']] ∧
      withVersion result line = result ∧
      withVersion result "#version 100".toList = withVersion code "#version 100".toList := by
  intro code line result
  obtain ⟨filtered, -, onTop⟩ := withVersion_filters code line
  have done : withVersion code line = result := by
    rw [filtered]
    decide +kernel
  obtain ⟨-, single, replaced, again⟩ := onTop (by decide +kernel) (by decide +kernel)
  rw [done] at single replaced again
  exact ⟨done, single, again, replaced _⟩

end ShaderVariants.Preamble
