import Mathlib.Tactic.SplitIfs
import ShaderVariants.FileSystem.Creation

/-!
Files that are made where nothing was.

`Extends` relates a file system to one that has more in it: whatever could be read still can be,
with the same contents.  `create` extends, and what it made is found by the path it was made with.
-/
namespace ShaderVariants.FileSystem

variable {files larger after : FileSystem} {path directory : Path} {here there location : Location}
  {piece : String} {pieces : List String} {contents : Bytes}

/-- Follows one piece of a path. -/
def step (files : FileSystem) (here : Location) (piece : String) : Except SystemError Location :=
  if !files.isDirectoryAt here then .error .notADirectory
  else if !piece.isEmpty && !files.isSearchableAt here then .error .permissionDenied
  else if Path.isIdle piece then .ok here
  else if piece = ".." then .ok here.dropLast
  else if isTooLong piece then .error .nameTooLong
  else if (files.node? (here ++ [piece])).isSome then .ok (here ++ [piece])
  else .error .notFound

theorem walk_cons (files : FileSystem) (here : Location) (piece : String) (rest : List String) :
    files.walk here (piece :: rest) = (files.step here piece).bind (files.walk · rest) := by
  rw [walk, step]
  split_ifs <;> rfl

theorem walk_append (files : FileSystem) (here : Location) (front back : List String) :
    files.walk here (front ++ back) = (files.walk here front).bind (files.walk · back) := by
  induction front generalizing here with
  | nil => rfl
  | cons piece rest ih =>
      rw [List.cons_append, walk_cons, walk_cons]
      cases files.step here piece with
      | error reason => rfl
      | ok there => exact ih there

theorem step_eq_ok_iff :
    files.step here piece = .ok there ↔
      files.isDirectoryAt here = true ∧ (piece.isEmpty = true ∨ files.isSearchableAt here = true) ∧
      if Path.isIdle piece then there = here
      else if piece = ".." then there = here.dropLast
      else isTooLong piece = false ∧ (files.node? (here ++ [piece])).isSome = true ∧
        there = here ++ [piece] := by
  unfold step
  split_ifs <;> grind

/-- A name is looked up in a directory that may be searched. -/
theorem step_name (isDirectory : files.isDirectoryAt here = true)
    (searchable : files.isSearchableAt here = true) (proper : Path.isIdle piece = false)
    (not_up : piece ≠ "..") (short : isTooLong piece = false) :
    files.step here piece =
      if (files.node? (here ++ [piece])).isSome then .ok (here ++ [piece])
      else .error .notFound := by
  simp [step, isDirectory, searchable, proper, not_up, short]

/-- Everything in `files` is in `larger` too, and paths start at the same place. -/
structure Extends (files larger : FileSystem) : Prop where
  node? : ∀ {location node}, files.node? location = some node → larger.node? location = some node
  workingDirectory : larger.workingDirectory = files.workingDirectory

namespace Extends

theorem refl (files : FileSystem) : Extends files files :=
  ⟨id, rfl⟩

theorem any_node? (extended : Extends files larger) {test : Node → Bool}
    (holds : (files.node? location).any test = true) :
    (larger.node? location).any test = true := by
  obtain ⟨node, found, passed⟩ := (Option.any_eq_true _ _).mp holds
  exact (Option.any_eq_true _ _).mpr ⟨node, extended.node? found, passed⟩

theorem isSome_node? (extended : Extends files larger)
    (found : (files.node? location).isSome = true) : (larger.node? location).isSome = true := by
  obtain ⟨node, found⟩ := Option.isSome_iff_exists.mp found
  rw [extended.node? found]
  rfl

theorem step (extended : Extends files larger) (found : files.step here piece = .ok there) :
    larger.step here piece = .ok there := by
  rw [step_eq_ok_iff] at found ⊢
  obtain ⟨isDirectory, allowed, reached⟩ := found
  refine ⟨extended.any_node? isDirectory, allowed.imp_right extended.any_node?, ?_⟩
  split_ifs at reached ⊢
  · exact reached
  · exact reached
  · exact ⟨reached.1, extended.isSome_node? reached.2.1, reached.2.2⟩

theorem walk (extended : Extends files larger) (found : files.walk here pieces = .ok location) :
    larger.walk here pieces = .ok location := by
  induction pieces generalizing here with
  | nil => exact found
  | cons piece rest ih =>
      rw [walk_cons] at found ⊢
      cases entered : files.step here piece with
      | error reason =>
          rw [entered] at found
          cases found
      | ok there =>
          rw [entered] at found
          rw [extended.step entered]
          exact ih found

theorem origin (extended : Extends files larger) (path : Path) :
    larger.origin path = files.origin path := by
  rw [FileSystem.origin, FileSystem.origin, extended.workingDirectory]

theorem resolve (extended : Extends files larger) (found : files.resolve path = .ok location) :
    larger.resolve path = .ok location := by
  unfold FileSystem.resolve at found ⊢
  cases accepted : accept path with
  | error reason =>
      rw [accepted] at found
      cases found
  | ok done =>
      rw [accepted] at found
      rw [extended.origin]
      exact extended.walk found

theorem read (extended : Extends files larger) (found : files.read path = .ok contents) :
    larger.read path = .ok contents := by
  unfold FileSystem.read at found ⊢
  cases resolved : files.resolve path with
  | error reason =>
      rw [resolved] at found
      cases found
  | ok location =>
      rw [extended.resolve resolved]
      rw [resolved] at found
      cases there : files.node? location with
      | none => simp [there, bind, Except.bind] at found
      | some node =>
          simp only [there, extended.node? there, bind, Except.bind] at found ⊢
          exact found

theorem readText (extended : Extends files larger) {text : String}
    (found : files.readText path = .ok text) : larger.readText path = .ok text := by
  unfold FileSystem.readText at found ⊢
  cases stored : files.read path with
  | error reason =>
      rw [stored] at found
      cases found
  | ok contents =>
      rw [stored] at found
      rw [extended.read stored]
      exact found

end Extends

theorem extends_put (inside : location ≠ []) (empty : files.node? location = none) (node : Node) :
    Extends files (files.put location node) := by
  refine ⟨fun {other there} found => ?_, rfl⟩
  rw [node?_put files inside]
  split
  · next same =>
      rw [same, empty] at found
      cases found
  · exact found

theorem resolveNew_ok (found : files.resolveNew path = .ok location) :
    accept path = .ok () ∧ ∃ name before directory,
      path.pieces.reverse.dropWhile String.isEmpty = name :: before ∧
      files.walk (files.origin path) before.reverse = .ok directory ∧
      files.isDirectoryAt directory = true ∧ files.isSearchableAt directory = true ∧
      name ≠ "." ∧ name ≠ ".." ∧ isTooLong name = false ∧ location = directory ++ [name] := by
  unfold resolveNew at found
  cases accepted : accept path with
  | error reason =>
      rw [accepted] at found
      cases found
  | ok done =>
      refine ⟨rfl, ?_⟩
      cases named : path.pieces.reverse.dropWhile String.isEmpty with
      | nil => simp [accepted, named, bind, Except.bind] at found
      | cons name before =>
          cases walked : files.walk (files.origin path) before.reverse with
          | error reason => simp [accepted, named, walked, bind, Except.bind] at found
          | ok directory =>
              simp only [accepted, named, walked, bind, Except.bind] at found
              split_ifs at found with noDirectory closed dots long
              cases found
              exact ⟨name, before, directory, rfl, walked, by simpa using noDirectory,
                by simpa using closed, by simp_all, by simp_all, by simpa using long, rfl⟩

/-- The last piece of a text that ends in no slash has the character at its end. -/
theorem splitOn_concat {c : Char} (solid : c ≠ '/') (front : Text) :
    ∃ pieces last, (front ++ [c]).splitOn '/' = pieces ++ [last ++ [c]] := by
  induction front with
  | nil => exact ⟨[], [], by simp [List.splitOn_cons_eq_if_modifyHead, solid]⟩
  | cons d front ih =>
      obtain ⟨pieces, last, parts⟩ := ih
      rw [List.cons_append, List.splitOn_cons_eq_if_modifyHead, parts]
      split
      · exact ⟨[] :: pieces, last, rfl⟩
      · cases pieces with
        | nil => exact ⟨[], d :: last, rfl⟩
        | cons piece pieces => exact ⟨(d :: piece) :: pieces, last, rfl⟩

theorem pieces_of_named {name : String} {before : List String} (accepted : accept path = .ok ())
    (named : path.text.toList.getLast? ≠ some '/')
    (parts : path.pieces.reverse.dropWhile String.isEmpty = name :: before) :
    path.pieces = before.reverse ++ [name] := by
  rcases List.eq_nil_or_concat path.text.toList with empty | ⟨front, c, whole⟩
  · have nothing : path.text = "" := String.toList_eq_nil_iff.mp empty
    simp [accept, nothing] at accepted
  · rw [List.concat_eq_append] at whole
    have solid : c ≠ '/' := by simpa [whole] using named
    obtain ⟨pieces, last, split⟩ := splitOn_concat solid front
    have reversed : path.pieces.reverse =
        String.ofList (last ++ [c]) :: (pieces.map String.ofList).reverse := by
      rw [Path.pieces, whole, split]
      simp
    rw [reversed, List.dropWhile_cons_of_neg (by simp), List.cons.injEq] at parts
    rw [← List.reverse_inj, reversed, parts.1, parts.2]
    simp

theorem resolve_eq_step {name : String} {before : List String} (accepted : accept path = .ok ())
    (pieces : path.pieces = before ++ [name])
    (walked : files.walk (files.origin path) before = .ok here) :
    files.resolve path = files.step here name := by
  have whole : files.resolve path = files.walk (files.origin path) path.pieces := by
    rw [resolve, accepted]
    rfl
  rw [whole, pieces, walk_append, walked]
  show files.walk here [name] = _
  rw [walk_cons]
  cases files.step here name <;> rfl

/-- What making a file leaves. -/
structure Created (files : FileSystem) (path : Path) (contents : Bytes) (after : FileSystem) :
    Prop where
  missing : files.resolve path = .error .notFound
  extended : Extends files after
  stored : after.read path = .ok contents
  single : ∃ location, after = files.put location (.file contents none)

theorem created_create (missing : files.resolve path = .error .notFound)
    (done : files.create path contents = .ok after) : Created files path contents after := by
  unfold create at done
  cases found : files.resolveNew path with
  | error reason => simp [found, bind, Except.bind] at done
  | ok location =>
      obtain ⟨accepted, name, before, directory, parts, walked, isDirectory, searchable,
        not_here, not_up, short, rfl⟩ := resolveNew_ok found
      simp only [found, bind, Except.bind] at done
      split at done
      · cases done
      · next named =>
          cases done
          have pieces := pieces_of_named accepted named parts
          have proper : Path.isIdle name = false := by
            have head := List.head?_dropWhile_not String.isEmpty path.pieces.reverse
            have nonempty : name ≠ "" := by
              rintro rfl
              simp [parts] at head
            simp [Path.isIdle, nonempty, not_here]
          have empty : files.node? (directory ++ [name]) = none := by
            cases present : files.node? (directory ++ [name]) with
            | none => rfl
            | some node =>
                rw [resolve_eq_step accepted pieces walked,
                  step_name isDirectory searchable proper not_up short, present] at missing
                cases missing
          have inside : directory ++ [name] ≠ [] := by simp
          have extended := extends_put inside empty (.file contents none)
          have stored := node?_put files inside (.file contents none) (directory ++ [name])
          rw [if_pos rfl] at stored
          have walked_after := extended.walk walked
          rw [← extended.origin] at walked_after
          refine ⟨missing, extended, ?_, _, rfl⟩
          rw [read, resolve_eq_step accepted pieces walked_after,
            step_name (extended.any_node? isDirectory) (extended.any_node? searchable) proper not_up
              short, stored]
          simp only [bind, Except.bind, Option.isSome_some, if_true, stored]

theorem created_writeNew (done : files.writeNew path contents = .ok after) :
    Created files path contents after := by
  unfold writeNew at done
  split at done
  · cases done
  · next missing => exact created_create missing done
  · cases done

theorem created_writeNumbered {stem suffix : String} {attempts number : Nat}
    (done : files.writeNumbered directory stem suffix contents attempts number =
      .ok (path, after)) :
    Created files path contents after := by
  induction attempts generalizing number with
  | zero => cases done
  | succ attempts ih =>
      simp only [writeNumbered] at done
      split at done
      · next larger written =>
          cases done
          exact created_writeNew written
      · exact ih done
      · cases done

theorem created_writeTemporary {stem suffix : String}
    (done : files.writeTemporary directory stem suffix contents = .ok (path, after)) :
    Created files path contents after :=
  created_writeNumbered done

end ShaderVariants.FileSystem
