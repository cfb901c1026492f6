import ShaderVariants.FileSystem.Creation
import ShaderVariants.Proofs.FileSystem.Canonical
import ShaderVariants.Proofs.Text.Utf8

/-!
What attempts leave, also those that fail.

`makeDirectories` answers the files it made, or why it failed; `attemptChain` answers both, since
the directories made before a failure stay.  Whatever becomes of an attempt, it only adds to the
files (`extends_attemptChain`).  Writing may also replace a file, and `resolve_back` says which path
leads to one that was there before: if it only goes downwards once it has left what is there, the
path led to that file from the beginning.
-/
namespace ShaderVariants.FileSystem

variable {files made after : FileSystem} {path : Path} {here there location : Location}
  {piece : String} {pieces : List String} {contents : Bytes} {node : Node}

/-- What an attempt answers, and the files it leaves. -/
structure Attempt (ε α : Type) where
  outcome : Except ε α
  files : FileSystem

/-- Makes a directory; one that is there already does as well. -/
def attemptDirectory (files : FileSystem) (path : Path) : Attempt SystemError Unit :=
  match files.makeDirectory path with
  | .ok made => ⟨.ok (), made⟩
  | .error reason => ⟨if files.isDirectory path then .ok () else .error reason, files⟩

/-- `makeChain`, with the files it leaves when it fails as well. -/
def attemptChain (files : FileSystem) : List Path → Attempt SystemError Unit
  | [] => ⟨.error .noParent, files⟩
  | path :: outer =>
      if path.text.isEmpty then ⟨.ok (), files⟩
      else
        match files.makeDirectory path with
        | .error .notFound =>
            match attemptChain files outer with
            | ⟨.error reason, made⟩ => ⟨.error reason, made⟩
            | ⟨.ok (), made⟩ => made.attemptDirectory path
        | _ => files.attemptDirectory path

/-- What is answered where nothing is said about the files after a failure. -/
def Attempt.answer {ε α : Type} (attempt : Attempt ε α) : Except ε (α × FileSystem) :=
  attempt.outcome.map fun answer => (answer, attempt.files)

theorem answer_attemptDirectory (files : FileSystem) (path : Path) :
    (files.attemptDirectory path).answer.map Prod.snd =
      match files.makeDirectory path with
      | .ok made => .ok made
      | .error reason => if files.isDirectory path then .ok files else .error reason := by
  unfold attemptDirectory
  cases files.makeDirectory path with
  | ok made => rfl
  | error reason => cases files.isDirectory path <;> rfl

/-- Unless something around it is missing, one directory is all there is to make. -/
theorem attemptChain_of_placed (named : path.text.isEmpty = false) (outer : List Path)
    (placed : files.makeDirectory path ≠ .error .notFound) :
    files.attemptChain (path :: outer) = files.attemptDirectory path := by
  rw [attemptChain, named]
  split
  · contradiction
  · split
    · next missing => exact absurd missing placed
    · rfl

theorem makeChain_eq_answer (files : FileSystem) (paths : List Path) :
    files.makeChain paths = (files.attemptChain paths).answer.map Prod.snd := by
  induction paths generalizing files with
  | nil => rfl
  | cons path outer ih =>
      cases named : path.text.isEmpty with
      | true => simp [makeChain, attemptChain, named, Attempt.answer, Except.map]
      | false =>
          cases entered : files.makeDirectory path with
          | ok made =>
              have placed : files.makeDirectory path ≠ .error .notFound := by simp [entered]
              rw [attemptChain_of_placed named outer placed, answer_attemptDirectory]
              simp [makeChain, named, entered]
          | error reason =>
              by_cases missing : reason = .notFound
              · subst missing
                simp only [makeChain, attemptChain, named, entered, ih]
                obtain ⟨outcome, made⟩ := files.attemptChain outer
                cases outcome with
                | error reason => rfl
                | ok done => exact (answer_attemptDirectory made path).symm
              · have placed : files.makeDirectory path ≠ .error .notFound := by
                  simp [entered, missing]
                rw [attemptChain_of_placed named outer placed, answer_attemptDirectory]
                simp [makeChain, named, entered]

theorem extends_makeDirectory (done : files.makeDirectory path = .ok after) :
    Extends files after := by
  unfold makeDirectory at done
  cases found : files.resolveNew path with
  | error reason => simp [found, bind, Except.bind] at done
  | ok location =>
      obtain ⟨-, name, before, directory, -, -, -, -, -, -, -, rfl⟩ := resolveNew_ok found
      simp only [found, bind, Except.bind] at done
      split at done
      · cases done
      · next empty =>
          cases done
          exact extends_put (by simp) (by simpa using empty) _

theorem extends_attemptDirectory (files : FileSystem) (path : Path) :
    Extends files (files.attemptDirectory path).files := by
  unfold attemptDirectory
  split
  · next made done => exact extends_makeDirectory done
  · exact .refl files

theorem Extends.trans (first : Extends files made) (second : Extends made after) :
    Extends files after :=
  ⟨fun found => second.node? (first.node? found),
    second.workingDirectory.trans first.workingDirectory⟩

/-- Making directories takes nothing away, whether it succeeds or not. -/
theorem extends_attemptChain (files : FileSystem) (paths : List Path) :
    Extends files (files.attemptChain paths).files := by
  induction paths generalizing files with
  | nil => exact .refl files
  | cons path outer ih =>
      unfold attemptChain
      split
      · exact .refl files
      · split
        · have outside := ih files
          split
          · next reason made failed => rwa [failed] at outside
          · next made done =>
              rw [done] at outside
              exact outside.trans (extends_attemptDirectory made path)
        · exact extends_attemptDirectory files path

theorem accept_of_resolve (found : files.resolve path = .ok location) :
    accept path = .ok () ∧ files.walk (files.origin path) path.pieces = .ok location := by
  unfold resolve at found
  cases accepted : accept path with
  | error reason =>
      rw [accepted] at found
      cases found
  | ok done =>
      rw [accepted] at found
      exact ⟨rfl, found⟩

theorem walk_cons_ok (walked : files.walk here (piece :: pieces) = .ok there) :
    ∃ next, files.step here piece = .ok next ∧ files.walk next pieces = .ok there := by
  rw [walk_cons] at walked
  cases entered : files.step here piece with
  | error reason =>
      rw [entered] at walked
      cases walked
  | ok next =>
      rw [entered] at walked
      exact ⟨next, rfl, walked⟩

/-- Whether something is at a location, and something at every location around it. -/
def Holds (files : FileSystem) (location : Location) (node : Node) : Prop :=
  files.node? location = some node ∧
    ∀ outer, outer <+: location → (files.node? outer).isSome = true

/-- Whether a path only goes downwards once it has left what is there. -/
def Descends (files : FileSystem) (path : Path) : Prop :=
  ∃ front back middle, path.pieces = front ++ back ∧
    files.walk (files.origin path) front = .ok middle ∧ ".." ∉ back

theorem Extends.holds (extended : Extends files made) (held : files.Holds location node) :
    made.Holds location node :=
  ⟨extended.node? held.1, fun outer around => extended.isSome_node? (held.2 outer around)⟩

/-- What was there already is no other in the larger files. -/
theorem Extends.node?_back (extended : Extends files made)
    (present : (files.node? here).isSome = true) : made.node? here = files.node? here := by
  obtain ⟨node, found⟩ := Option.isSome_iff_exists.mp present
  rw [found, extended.node? found]

theorem prefix_descend (downward : piece ≠ "..") : here <+: descend here piece := by
  unfold descend
  split
  · exact List.prefix_refl here
  · exact List.prefix_append here _

theorem prefix_of_walk (downward : ".." ∉ pieces) (walked : files.walk here pieces = .ok there) :
    here <+: there := by
  rw [walk_ok walked]
  clear walked
  induction pieces generalizing here with
  | nil => exact List.prefix_refl here
  | cons piece rest ih =>
      rw [List.mem_cons, not_or] at downward
      exact (prefix_descend (Ne.symm downward.1)).trans (ih downward.2)

theorem Extends.step_back (extended : Extends files made) (downward : piece ≠ "..")
    (present : (files.node? here).isSome = true)
    (entered : made.step here piece = .ok there) (also : (files.node? there).isSome = true) :
    files.step here piece = .ok there := by
  rw [step_eq_ok_iff] at entered ⊢
  obtain ⟨isDirectory, allowed, reached⟩ := entered
  rw [isDirectoryAt, extended.node?_back present] at isDirectory
  rw [isSearchableAt, extended.node?_back present] at allowed
  refine ⟨isDirectory, allowed, ?_⟩
  rw [if_neg downward] at reached ⊢
  split at reached
  · next idle => rwa [if_pos idle]
  · next proper =>
      rw [if_neg proper]
      exact ⟨reached.1, reached.2.2 ▸ also, reached.2.2⟩

/-- A way downwards to what was there from the beginning is not a new one. -/
theorem Extends.walk_back (extended : Extends files made) (downward : ".." ∉ pieces)
    (present : ∀ outer, outer <+: there → (files.node? outer).isSome = true)
    (walked : made.walk here pieces = .ok there) : files.walk here pieces = .ok there := by
  induction pieces generalizing here with
  | nil => exact walked
  | cons piece rest ih =>
      obtain ⟨next, entered, later⟩ := walk_cons_ok walked
      have fromHere := prefix_of_walk downward walked
      rw [List.mem_cons, not_or] at downward
      have fromNext := prefix_of_walk downward.2 later
      rw [walk_cons, extended.step_back (Ne.symm downward.1) (present _ fromHere) entered
        (present _ fromNext)]
      exact ih downward.2 later

theorem Extends.resolve_back (extended : Extends files made) (descends : files.Descends path)
    (held : files.Holds location node) (found : made.resolve path = .ok location) :
    files.resolve path = .ok location := by
  obtain ⟨front, back, middle, pieces, walked, downward⟩ := descends
  obtain ⟨accepted, found⟩ := accept_of_resolve found
  rw [extended.origin, pieces, walk_append, extended.walk walked] at found
  rw [FileSystem.resolve, accepted]
  simp only [bind, Except.bind, pieces, walk_append, walked]
  exact extended.walk_back downward held.2 found

/-- Writing replaces the contents of a file, or makes one where nothing was. -/
theorem write_cases (written : files.write path contents = .ok after) :
    (∃ location before program?, files.resolve path = .ok location ∧
      files.node? location = some (.file before program?) ∧
      after = files.put location (.file contents program?)) ∨
    Created files path contents after := by
  unfold write at written
  split at written
  · next location found =>
      split at written
      · next before program? stored =>
          cases written
          exact .inl ⟨location, before, program?, found, stored, rfl⟩
      · cases written
  · next missing => exact .inr (created_create missing written)
  · cases written

theorem ne_nil_of_file {before : Bytes} {program? : Option Program}
    (stored : files.node? location = some (.file before program?)) : location ≠ [] := by
  intro top
  simp [top, node?] at stored

theorem Holds.put_file {before : Bytes} {program? : Option Program} {other : Location}
    (held : files.Holds other node)
    (stored : files.node? location = some (.file before program?)) (apart : other ≠ location) :
    (files.put location (.file contents program?)).Holds other node := by
  have replaced := node?_put files (ne_nil_of_file stored) (.file contents program?)
  refine ⟨?_, fun outer around => ?_⟩
  · rw [replaced, if_neg apart]
    exact held.1
  · rw [replaced]
    split
    · rfl
    · exact held.2 outer around

/-- Paths lead where they led when the contents of a file are replaced. -/
theorem step_put_file {before : Bytes} {program? : Option Program}
    (stored : files.node? location = some (.file before program?)) (here : Location)
    (piece : String) :
    (files.put location (.file contents program?)).step here piece = files.step here piece := by
  have inside := ne_nil_of_file stored
  have same (there : Location) (test : Option Node → Bool)
      (blind : test (some (.file contents program?)) = test (some (.file before program?))) :
      test ((files.put location (.file contents program?)).node? there) =
        test (files.node? there) := by
    rw [node?_put files inside]
    split
    · next here => rw [here, stored, blind]
    · rfl
  have directories := same here (·.any Node.isDirectory) rfl
  have searchables := same here (·.any Node.isSearchable) rfl
  have existing := same (here ++ [piece]) (·.isSome) rfl
  rw [step, step, isDirectoryAt, isSearchableAt, directories, searchables, existing]
  rfl

theorem resolve_put_file {before : Bytes} {program? : Option Program}
    (stored : files.node? location = some (.file before program?)) (path : Path) :
    (files.put location (.file contents program?)).resolve path = files.resolve path := by
  have walks (here : Location) (pieces : List String) :
      (files.put location (.file contents program?)).walk here pieces = files.walk here pieces := by
    induction pieces generalizing here with
    | nil => rfl
    | cons piece rest ih =>
        simp only [walk_cons, step_put_file stored, ih]
  simp only [resolve, walks]
  rfl

/-- What was written can be read. -/
theorem read_of_write (written : files.write path contents = .ok after) :
    after.read path = .ok contents := by
  rcases write_cases written with ⟨location, before, program?, found, stored, rfl⟩ | created
  · have replaced := node?_put files (ne_nil_of_file stored) (.file contents program?) location
    rw [if_pos rfl] at replaced
    rw [read, resolve_put_file stored, found]
    simp only [bind, Except.bind, replaced]
  · exact created.stored

theorem readText_of_read {text : Text} (stored : files.read path = .ok (Utf8.encode text)) :
    files.readText path = .ok (String.ofList text) := by
  rw [readText, stored]
  simp only [bind, Except.bind, Utf8.decode?_encode]

end ShaderVariants.FileSystem
