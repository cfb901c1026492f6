import ShaderVariants.Proofs.FileSystem.Creation

/-!
Canonical paths.

Where a path leads is said by its pieces alone; the files only say whether it leads there
(`walk_ok`).  So two spellings of a path lead to one place (`resolve_of_agrees`), and a canonical
path leads to the location it was made from, or nowhere, and it stays as it is when it is made
canonical again (`canonical_canonical`).
-/
namespace ShaderVariants.FileSystem

variable {files : FileSystem} {path other : Path} {here there location : Location}
  {name piece : String} {pieces : List String}

/-- A name that a directory can hold something under. -/
structure IsName (name : String) : Prop where
  proper : Path.isIdle name = false
  notUp : name ≠ ".."
  whole : '/' ∉ name.toList

/-- Where one piece of a path leads. -/
def descend (here : Location) (piece : String) : Location :=
  if Path.isIdle piece then here else if piece = ".." then here.dropLast else here ++ [piece]

theorem step_ok (entered : files.step here piece = .ok there) : there = descend here piece := by
  rw [step_eq_ok_iff] at entered
  obtain ⟨-, -, reached⟩ := entered
  unfold descend
  split_ifs at reached ⊢
  · exact reached
  · exact reached
  · exact reached.2.2

theorem walk_ok (walked : files.walk here pieces = .ok there) :
    there = pieces.foldl descend here := by
  induction pieces generalizing here with
  | nil =>
      cases walked
      rfl
  | cons piece rest ih =>
      rw [walk_cons] at walked
      cases entered : files.step here piece with
      | error reason =>
          rw [entered] at walked
          cases walked
      | ok next =>
          rw [entered] at walked
          rw [List.foldl_cons, ← step_ok entered]
          exact ih walked

theorem resolve_ok (found : files.resolve path = .ok location) :
    location = path.pieces.foldl descend (files.origin path) := by
  unfold resolve at found
  cases accepted : accept path with
  | error reason =>
      rw [accepted] at found
      cases found
  | ok done =>
      rw [accepted] at found
      exact walk_ok found

/-- Where one component of a path leads. -/
def follow (here : Location) : Path.Component → Location
  | .root | .here => here
  | .up => here.dropLast
  | .name name => here ++ [name]

theorem foldl_descend_tail {pieces : List String} (idle : ∀ piece ∈ pieces.head?, Path.isIdle piece)
    (here : Location) : pieces.foldl descend here = pieces.tail.foldl descend here := by
  cases pieces with
  | nil => rfl
  | cons piece rest =>
      have stays : descend here piece = here := by
        rw [descend, if_pos (idle piece rfl)]
      rw [List.foldl_cons, stays, List.tail_cons]

theorem foldl_descend_body (path : Path) (here : Location) :
    path.pieces.foldl descend here = path.body.foldl descend here := by
  unfold Path.body Path.lead?
  by_cases absolute : path.isAbsolute = true
  · rw [if_pos absolute]
    apply foldl_descend_tail
    intro piece first
    obtain ⟨rest, whole⟩ : ∃ rest, path.text.toList = '/' :: rest := by
      unfold Path.isAbsolute at absolute
      cases text : path.text.toList with
      | nil => simp [text] at absolute
      | cons c rest => exact ⟨rest, by simpa [text] using absolute⟩
    rw [Path.pieces, whole, List.splitOn_cons_eq_if_modifyHead, if_pos (by simp)] at first
    rw [List.map_cons, List.head?_cons, Option.mem_some_iff] at first
    rw [← first]
    decide
  · rw [if_neg absolute]
    by_cases dotted : path.pieces.head? = some "."
    · rw [if_pos dotted]
      apply foldl_descend_tail
      intro piece first
      rw [dotted] at first
      cases first
      decide
    · rw [if_neg dotted]
      rfl

/-- The components of a path say where it leads. -/
theorem foldl_descend_pieces (path : Path) (here : Location) :
    path.pieces.foldl descend here = path.components.foldl follow here := by
  have stays (here : Location) : path.lead?.toList.foldl follow here = here := by
    unfold Path.lead?
    split_ifs <;> rfl
  have same : descend = fun here piece =>
      if !Path.isIdle piece then follow here (Path.stepOf piece) else here := by
    funext here piece
    unfold descend Path.stepOf
    split_ifs <;> simp_all [follow]
  rw [foldl_descend_body, Path.components, List.foldl_append, stays, List.foldl_map,
    List.foldl_filter, same]

theorem isAbsolute_iff : path.isAbsolute = true ↔ path.components.head? = some .root := by
  have proper (pieces : List String) : (pieces.map Path.stepOf).head? ≠ some .root := by
    cases pieces with
    | nil => simp
    | cons piece rest =>
        unfold Path.stepOf
        simp only [List.map_cons, List.head?_cons]
        split <;> simp
  unfold Path.components Path.lead?
  by_cases absolute : path.isAbsolute = true
  · simp [absolute]
  · by_cases dotted : path.pieces.head? = some "."
    · simp [absolute, dotted]
    · rw [if_neg absolute, if_neg dotted]
      exact iff_of_false absolute (proper _)

/-- Two spellings of a path lead to one place, where both lead anywhere. -/
theorem resolve_of_agrees (agreeing : other.agrees path = true)
    (found : files.resolve path = .ok location) (also : files.resolve other = .ok there) :
    there = location := by
  have same : other.components = path.components := of_decide_eq_true agreeing
  have origins : files.origin other = files.origin path := by
    have absolute : other.isAbsolute = path.isAbsolute := by
      rw [Bool.eq_iff_iff, isAbsolute_iff, isAbsolute_iff, same]
    rw [origin, origin, absolute]
  rw [resolve_ok found, resolve_ok also, foldl_descend_pieces, foldl_descend_pieces, same, origins]

theorem readText_of_agrees {text read : String} (agreeing : other.agrees path = true)
    (stored : files.readText path = .ok text) (also : files.readText other = .ok read) :
    read = text := by
  cases found : files.resolve path with
  | error reason => simp [readText, FileSystem.read, found, bind, Except.bind] at stored
  | ok location =>
      cases found_also : files.resolve other with
      | error reason => simp [readText, FileSystem.read, found_also, bind, Except.bind] at also
      | ok there =>
          rw [resolve_of_agrees agreeing found found_also] at found_also
          simp only [readText, FileSystem.read, found, found_also, bind, Except.bind] at stored also
          exact Except.ok.inj (also.symm.trans stored)

theorem isName_foldl_descend (clean : ∀ piece ∈ pieces, '/' ∉ piece.toList)
    (proper : ∀ name ∈ here, IsName name) : ∀ name ∈ pieces.foldl descend here, IsName name := by
  induction pieces generalizing here with
  | nil => exact proper
  | cons piece rest ih =>
      rw [List.forall_mem_cons] at clean
      refine ih clean.2 ?_
      intro name member
      unfold descend at member
      split_ifs at member with idle up
      · exact proper name member
      · exact proper name (List.dropLast_subset here member)
      · rcases List.mem_append.mp member with above | last
        · exact proper name above
        · rw [List.mem_singleton] at last
          subst last
          exact ⟨by simpa using idle, up, clean.1⟩

theorem not_mem_of_splitOn {c : Char} {text part : Text} (member : part ∈ text.splitOn c) :
    c ∉ part := by
  induction text generalizing part with
  | nil =>
      rw [List.splitOn_nil, List.mem_singleton] at member
      simp [member]
  | cons d rest ih =>
      rw [List.splitOn_cons_eq_if_modifyHead] at member
      split at member
      · rcases List.mem_cons.mp member with rfl | later
        · simp
        · exact ih later
      · next differs =>
          cases parts : rest.splitOn c with
          | nil => exact absurd parts (List.splitOn_ne_nil c rest)
          | cons first others =>
              rw [parts] at member ih
              rcases List.mem_cons.mp member with rfl | later
              · have outside := ih List.mem_cons_self
                simpa [outside] using Ne.symm (by simpa using differs)
              · exact ih (List.mem_cons_of_mem first later)

theorem clean_of_mem_pieces (member : piece ∈ path.pieces) : '/' ∉ piece.toList := by
  obtain ⟨part, inside, rfl⟩ := List.mem_map.mp member
  rw [String.toList_ofList]
  exact not_mem_of_splitOn inside

theorem isName_of_resolve (working : ∀ name ∈ files.workingDirectory, IsName name)
    (found : files.resolve path = .ok location) : ∀ name ∈ location, IsName name := by
  rw [resolve_ok found]
  refine isName_foldl_descend (fun piece => clean_of_mem_pieces) ?_
  unfold origin
  split
  · simp
  · exact working

theorem foldl_descend (proper : ∀ name ∈ location, IsName name) :
    location.foldl descend here = here ++ location := by
  induction location generalizing here with
  | nil => rw [List.foldl_nil, List.append_nil]
  | cons name rest ih =>
      rw [List.forall_mem_cons] at proper
      have entered : descend here name = here ++ [name] := by
        rw [descend, if_neg (by simp [proper.1.proper]), if_neg proper.1.notUp]
      rw [List.foldl_cons, entered, ih proper.2, List.append_assoc]
      rfl

theorem foldl_descend_pathOf (proper : ∀ name ∈ location, IsName name) :
    (pathOf location).pieces.foldl descend [] = location := by
  have slash : "/".toList = ['/'] := by decide
  have whole : (pathOf location).text.toList =
      '/' :: ['/'].intercalate (location.map String.toList) := by
    rw [pathOf, String.toList_append, String.toList_intercalate, slash]
    rfl
  have idle (here : Location) : descend here "" = here := by
    rw [descend, if_pos (by decide)]
  rw [Path.pieces, whole, List.splitOn_cons_eq_if_modifyHead, if_pos (by simp), List.map_cons,
    List.foldl_cons, String.ofList_nil, idle]
  cases location with
  | nil => exact idle []
  | cons name rest =>
      have clean : ∀ text ∈ (name :: rest).map String.toList, '/' ∉ text := by
        intro text member
        obtain ⟨name, inside, rfl⟩ := List.mem_map.mp member
        exact (proper name inside).whole
      rw [List.splitOn_intercalate '/' clean (by simp), List.map_map]
      have same : (name :: rest).map (String.ofList ∘ String.toList) = name :: rest := by
        simp [Function.comp_def]
      rw [same, foldl_descend proper, List.nil_append]

/-- A canonical path leads where it says, if anywhere. -/
theorem resolve_pathOf (proper : ∀ name ∈ location, IsName name)
    (found : files.resolve (pathOf location) = .ok there) : there = location := by
  have absolute : (pathOf location).isAbsolute = true := by
    have slash : "/".toList = ['/'] := by decide
    rw [Path.isAbsolute, pathOf, String.toList_append, slash]
    rfl
  rw [resolve_ok found, origin, if_pos absolute, foldl_descend_pathOf proper]

theorem canonical_of_resolve (found : files.resolve path = .ok location) :
    files.canonical path = pathOf location := by
  rw [canonical, found]

/-- What is canonical stays as it is. -/
theorem canonical_canonical (working : ∀ name ∈ files.workingDirectory, IsName name)
    (path : Path) : files.canonical (files.canonical path) = files.canonical path := by
  cases found : files.resolve path with
  | error reason =>
      have unchanged : files.canonical path = path := by rw [canonical, found]
      rw [unchanged, unchanged]
  | ok location =>
      rw [canonical_of_resolve found]
      cases again : files.resolve (pathOf location) with
      | error reason => rw [canonical, again]
      | ok there =>
          rw [canonical_of_resolve again, resolve_pathOf (isName_of_resolve working found) again]

/-- What can be read under the canonical path can be read under the path itself. -/
theorem readText_canonical (working : ∀ name ∈ files.workingDirectory, IsName name) {text : String}
    (stored : files.readText (files.canonical path) = .ok text) :
    files.readText path = .ok text := by
  cases found : files.resolve path with
  | error reason =>
      have unchanged : files.canonical path = path := by rw [canonical, found]
      rwa [unchanged] at stored
  | ok location =>
      rw [canonical_of_resolve found] at stored
      cases again : files.resolve (pathOf location) with
      | error reason => simp [readText, read, again, bind, Except.bind] at stored
      | ok there =>
          rw [resolve_pathOf (isName_of_resolve working found) again] at again
          simp only [readText, read, again, found, bind, Except.bind] at stored ⊢
          exact stored

end ShaderVariants.FileSystem
