import ShaderVariants.Keyword.Group
import ShaderVariants.Proofs.Text.Bytes

/-!
What a hint shows of a group.

`joined` is the preview that no budget cuts short.  Gathering stops as soon as the budget is reached,
so it gathers a leading part of the options (`exists_gathered`), and the hint can be told from what
leading parts join to (`hint_previews`).
-/
namespace ShaderVariants.Keyword

open Text

variable {options front back taken : List String} {option : String}

/-- The options of a group that define a keyword. -/
def Group.keywords (group : Group) : List String :=
  group.options.filter (fun option => !option.isEmpty)

/-- The options with a comma between any two. -/
def joined (options : List String) : Text :=
  [','].intercalate (options.map String.toList)

theorem joined_cons (first : String) (rest : List String) :
    joined (first :: rest) = first.toList ++ rest.flatMap (fun option => ',' :: option.toList) := by
  induction rest generalizing first with
  | nil => simp [joined, List.intercalate]
  | cons second rest ih =>
      have apart : joined (first :: second :: rest) =
          first.toList ++ ',' :: joined (second :: rest) := by
        simp [joined, List.intercalate]
      rw [apart, ih, List.flatMap_cons, List.cons_append]

theorem joined_concat (some_front : front ≠ []) (option : String) :
    joined (front ++ [option]) = joined front ++ ',' :: option.toList := by
  cases front with
  | nil => exact absurd rfl some_front
  | cons first rest => simp [joined_cons]

theorem prefix_joined (begins : front <+: options) : joined front <+: joined options := by
  obtain ⟨back, rfl⟩ := begins
  cases front with
  | nil => exact List.nil_prefix
  | cons first rest => simp [joined_cons]

theorem joined_ne_nil (solid : ∀ option ∈ front, option ≠ "") (some_front : front ≠ []) :
    joined front ≠ [] := by
  cases front with
  | nil => exact absurd rfl some_front
  | cons first rest =>
      have visible := solid first List.mem_cons_self
      simp [joined_cons, visible]

/-- The text one more option makes of what is gathered. -/
theorem joined_next (solid : ∀ option ∈ front, option ≠ "") (option : String) :
    (if (joined front).isEmpty then option.toList else joined front ++ ',' :: option.toList) =
      joined (front ++ [option]) := by
  by_cases nothing : front = []
  · subst nothing
    simp [joined, List.intercalate]
  · have visible := joined_ne_nil solid nothing
    rw [if_neg (by simpa using visible), joined_concat nothing]

/-- The options that a gathering took: a leading part, all of them unless the budget is reached, and
no more than it takes to reach it. -/
structure Gathered (options taken : List String) : Prop where
  begins : taken <+: options
  enough : taken = options ∨ hintBudget ≤ (joined taken).length
  least : ∀ fewer, fewer <+: taken → hintBudget ≤ (joined fewer).length → fewer = taken

theorem room_earlier {fewer : List String} (begins : fewer <+: front)
    (room : (joined front).length < hintBudget) : ¬ hintBudget ≤ (joined fewer).length := by
  have within := (prefix_joined begins).length_le
  omega

theorem exists_gathered (solid : ∀ option ∈ front ++ back, option ≠ "")
    (room : (joined front).length < hintBudget) :
    ∃ taken, Gathered (front ++ back) taken ∧ gather (joined front) back = joined taken := by
  induction back generalizing front with
  | nil =>
      refine ⟨front, ⟨List.prefix_append front [], .inl (by simp), ?_⟩, rfl⟩
      intro fewer begins reached
      exact absurd reached (room_earlier begins room)
  | cons option back ih =>
      have before : ∀ option ∈ front, option ≠ "" :=
        fun option member => solid option (List.mem_append_left _ member)
      have regrouped : front ++ option :: back = (front ++ [option]) ++ back := by simp
      rw [regrouped] at solid ⊢
      simp only [gather, joined_next before]
      split
      · next reached =>
          refine ⟨front ++ [option], ⟨List.prefix_append _ _, .inr reached, ?_⟩, rfl⟩
          intro fewer begins enough
          rcases List.prefix_concat_iff.mp begins with all | begins
          · exact all
          · exact absurd enough (room_earlier begins room)
      · next short => exact ih solid (Nat.lt_of_not_le short)

theorem Gathered.prefix_joined (gathered : Gathered options taken) :
    joined taken <+: joined options :=
  Keyword.prefix_joined gathered.begins

/-- What reaches the budget has been gathered up to there. -/
theorem Gathered.reached (gathered : Gathered options taken)
    (long : hintBudget ≤ (joined options).length) : hintBudget ≤ (joined taken).length := by
  rcases gathered.enough with all | reached
  · rwa [all]
  · exact reached

theorem Gathered.joined_eq_of_short (gathered : Gathered options taken)
    (short : (joined options).length ≤ hintBudget) : joined taken = joined options := by
  rcases gathered.enough with all | reached
  · rw [all]
  · exact gathered.prefix_joined.eq_of_length_le (Nat.le_trans short reached)

/-- A leading part that fills the budget exactly is what was gathered. -/
theorem Gathered.eq_of_exact (gathered : Gathered options taken)
    (long : hintBudget ≤ (joined options).length) (begins : front <+: options)
    (fills : (joined front).length = hintBudget) : joined taken = joined front := by
  rcases List.prefix_or_prefix_of_prefix begins gathered.begins with fewer | more
  · rw [gathered.least front fewer (Nat.le_of_eq fills.symm)]
  · have reached := gathered.reached long
    rw [← fills] at reached
    exact (Keyword.prefix_joined more).eq_of_length_le reached

theorem Group.visible_keywords (group : Group) : ∀ option ∈ group.keywords, option ≠ "" := by
  intro option member
  simpa using (List.mem_filter.mp member).2

theorem Group.gathers (group : Group) :
    ∃ taken, Gathered group.keywords taken ∧ gather [] group.keywords = joined taken :=
  have visible : ∀ option ∈ [] ++ group.keywords, option ≠ "" := group.visible_keywords
  exists_gathered visible (by decide)

theorem Group.toList_hint (group : Group) :
    group.hint.toList = withinBudget (gather [] group.keywords) := by
  rw [Group.hint, String.toList_ofList, Group.keywords]

theorem withinBudget_of_short {text : Text} (short : text.length ≤ hintBudget) :
    withinBudget text = text := by
  rw [withinBudget, if_neg (Nat.not_lt.mpr short)]

theorem length_withinBudget (text : Text) : (withinBudget text).length ≤ hintBudget := by
  unfold withinBudget
  split
  · next long =>
      have kept :
          (text.take (hintBudget - ellipsis.length)).length ≤ hintBudget - ellipsis.length :=
        List.length_take_le _ _
      have room : hintBudget - ellipsis.length + ellipsis.length = hintBudget := by decide
      rw [List.length_append]
      omega
  · next short => exact Nat.le_of_not_lt short

/-- The byte offset of the character at an index, or of the end of the text if it has none there. -/
def offsetOf : (index : Nat) → Text → Nat
  | 0, _ => 0
  | _, [] => 0
  | index + 1, c :: rest => c.utf8Size + offsetOf index rest

theorem offsetOf_eq (index : Nat) (text : Text) : offsetOf index text = size (text.take index) := by
  induction text generalizing index with
  | nil => cases index <;> simp [offsetOf, size_nil]
  | cons c rest ih =>
      cases index with
      | zero => simp [offsetOf, size_nil]
      | succ index => rw [offsetOf, ih, List.take_succ_cons, size_cons]

/-- The hint, cut at a byte offset; nothing if that were inside a character. -/
def Group.hintBySlice? (group : Group) : Option Text :=
  let gathered := gather [] group.keywords
  if hintBudget < gathered.length then
    (slice? 0 (offsetOf (hintBudget - ellipsis.length) gathered) gathered).map (· ++ ellipsis)
  else some gathered

theorem slice?_offsetOf (index : Nat) (text : Text) :
    slice? 0 (offsetOf index text) text = some (text.take index) := by
  rw [offsetOf_eq]
  refine slice?_eq_some_iff.mpr ⟨[], text.drop index, ?_, rfl, ?_⟩
  · rw [List.nil_append, List.take_append_drop]
  · rw [size_nil, Nat.zero_add]

theorem Group.hintBySlice?_eq (group : Group) : group.hintBySlice? = some group.hint.toList := by
  rw [Group.toList_hint, Group.hintBySlice?, withinBudget]
  split
  · rw [slice?_offsetOf, Option.map_some]
  · rfl

/-- A hint shows the whole preview where that has at most 18 characters; otherwise a leading part of
the options that fills the 18 exactly, and where there is none, the first 15 characters and dots.
Cutting at a byte offset comes to the same and never meets the inside of a character. -/
theorem hint_previews (group : Group) :
    ((joined group.keywords).length ≤ 18 → group.hint.toList = joined group.keywords) ∧
    (18 < (joined group.keywords).length →
      (∀ front, front <+: group.keywords → (joined front).length = 18 →
        group.hint.toList = joined front) ∧
      ((∀ front, front <+: group.keywords → (joined front).length ≠ 18) →
        group.hint.toList = (joined group.keywords).take 15 ++ "...".toList)) ∧
    group.hint.toList.length ≤ 18 ∧
    group.hintBySlice? = some group.hint.toList := by
  obtain ⟨taken, gathered, gathers⟩ := group.gathers
  have shown : group.hint.toList = withinBudget (joined taken) := by
    rw [Group.toList_hint, gathers]
  refine ⟨?_, ?_, ?_, group.hintBySlice?_eq⟩
  · intro short
    rw [shown, gathered.joined_eq_of_short short, withinBudget_of_short short]
  · intro long
    have full : hintBudget ≤ (joined group.keywords).length := Nat.le_of_lt long
    refine ⟨?_, ?_⟩
    · intro front begins fills
      rw [shown, gathered.eq_of_exact full begins fills,
        withinBudget_of_short (Nat.le_of_eq fills)]
    · intro unfilled
      have beyond : hintBudget < (joined taken).length :=
        Nat.lt_of_le_of_ne (gathered.reached full) (unfilled taken gathered.begins).symm
      have fifteen : 15 ≤ (joined taken).length :=
        Nat.le_trans (by decide : 15 ≤ hintBudget) (Nat.le_of_lt beyond)
      obtain ⟨rest, whole⟩ := gathered.prefix_joined
      rw [shown, withinBudget, if_pos beyond, ← whole, List.take_append_of_le_length fifteen]
      rfl
  · rw [shown]
    exact length_withinBudget _

/-- Options that fill the budget before the last one, and letters of two bytes that overfill it. -/
theorem hint_previews_both_ways :
    (Group.hint ⟨.multiCompile, ["", "FOG", "ABCDEFGHIJKLMN", "S"], by decide⟩).toList =
        "FOG,ABCDEFGHIJKLMN".toList ∧
      (Group.hint ⟨.multiCompile, ["ÄÖÜ", "ÄÖÜÄÖÜÄÖÜÄÖÜÄÖÜ"], by decide⟩).toList =
        "ÄÖÜ,ÄÖÜÄÖÜÄÖÜÄÖ...".toList := by
  have filled := hint_previews ⟨.multiCompile, ["", "FOG", "ABCDEFGHIJKLMN", "S"], by decide⟩
  have overfilled := hint_previews ⟨.multiCompile, ["ÄÖÜ", "ÄÖÜÄÖÜÄÖÜÄÖÜÄÖÜ"], by decide⟩
  refine ⟨(filled.2.1 (by decide)).1 ["FOG", "ABCDEFGHIJKLMN"] (by decide) (by decide), ?_⟩
  refine ((overfilled.2.1 (by decide)).2 ?_).trans (by decide)
  intro front begins
  have sizes : ∀ count ≤ 2, (joined (["ÄÖÜ", "ÄÖÜÄÖÜÄÖÜÄÖÜÄÖÜ"].take count)).length ≠ 18 := by
    decide
  rw [List.prefix_iff_eq_take.mp begins]
  exact sizes front.length begins.length_le

end ShaderVariants.Keyword
