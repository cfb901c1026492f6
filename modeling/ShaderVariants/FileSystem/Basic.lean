import ShaderVariants.FileSystem.Error
import ShaderVariants.Path
import ShaderVariants.Text.Offset
import ShaderVariants.Text.Utf8

/-!
A file system in memory.

Files are kept under their absolute locations.  `resolve` walks a path from the working directory
one piece at a time, the way the system does, and every access starts with it; `node?` says what is
at a location, and `put` and `erase` change that.
-/
namespace ShaderVariants

/-- What a finished program leaves: its standard output, and its exit code unless a signal ended
it. -/
structure Completion where
  output : Bytes
  exit : Option Int
deriving DecidableEq, Repr

/-- An executable: what it does depends on its arguments and on the files it can read. -/
abbrev Program := (arguments : List String) → (contents : Path → Option Bytes) → Completion

/-- The names that lead from the root to a place, outermost first. -/
abbrev Location := List String

/-- What can be at a location.  In a directory that may not be searched no name can be looked up. -/
inductive Node where
  | directory (searchable : Bool := true)
  | file (contents : Bytes) (program? : Option Program)

def Node.isDirectory : Node → Bool
  | .directory _ => true
  | .file _ _ => false

def Node.isSearchable : Node → Bool
  | .directory searchable => searchable
  | .file _ _ => false

/-- Everything that exists, and where relative paths start. -/
structure FileSystem where
  nodes : List (Location × Node) := []
  workingDirectory : Location := []

namespace FileSystem

/-- Most bytes a file name may have. -/
def nameLimit : Nat := 255

/-- Fewest bytes of a path that is too long. -/
def pathLimit : Nat := 4096

/-- What is at `location`; the root is always a directory that may be searched. -/
def node? (files : FileSystem) (location : Location) : Option Node :=
  if location.isEmpty then some .directory else files.nodes.lookup location

def isDirectoryAt (files : FileSystem) (location : Location) : Bool :=
  (files.node? location).any Node.isDirectory

/-- Whether names can be looked up at `location`. -/
def isSearchableAt (files : FileSystem) (location : Location) : Bool :=
  (files.node? location).any Node.isSearchable

def put (files : FileSystem) (location : Location) (node : Node) : FileSystem :=
  { files with nodes := (location, node) :: files.nodes.filter (fun entry => entry.1 != location) }

/-- `files` without `location` and everything below it. -/
def erase (files : FileSystem) (location : Location) : FileSystem :=
  { files with nodes := files.nodes.filter (fun entry => !location.isPrefixOf entry.1) }

def isTooLong (name : String) : Bool :=
  nameLimit < Text.size name.toList

/-- Follows `pieces` from the existing location `here`.  A dot is looked up like a name; only the
empty piece between two slashes is not. -/
def walk (files : FileSystem) (here : Location) : List String → Except SystemError Location
  | [] => .ok here
  | piece :: rest =>
      if !files.isDirectoryAt here then .error .notADirectory
      else if !piece.isEmpty && !files.isSearchableAt here then .error .permissionDenied
      else if Path.isIdle piece then walk files here rest
      -- Above the root there is the root.
      else if piece = ".." then walk files here.dropLast rest
      else if isTooLong piece then .error .nameTooLong
      else if (files.node? (here ++ [piece])).isSome then walk files (here ++ [piece]) rest
      else .error .notFound

/-- Where a path starts. -/
def origin (files : FileSystem) (path : Path) : Location :=
  if path.isAbsolute then [] else files.workingDirectory

def accept (path : Path) : Except SystemError Unit :=
  if path.text.toList.contains '\x00' then .error .nulInFileName
  else if path.text.isEmpty then .error .notFound
  else if pathLimit ≤ Text.size path.text.toList then .error .nameTooLong
  else .ok ()

def resolve (files : FileSystem) (path : Path) : Except SystemError Location := do
  accept path
  walk files (files.origin path) path.pieces

/-- The directory a path leads into and the name at its end, which need not exist.  Slashes at the
end do not count; a dot or two there stand for a directory that exists. -/
def resolveNew (files : FileSystem) (path : Path) : Except SystemError Location := do
  accept path
  match path.pieces.reverse.dropWhile String.isEmpty with
  | [] => .error .alreadyExists
  | name :: before =>
      let directory ← walk files (files.origin path) before.reverse
      if !files.isDirectoryAt directory then .error .notADirectory
      else if !files.isSearchableAt directory then .error .permissionDenied
      else if name = "." || name = ".." then .error .alreadyExists
      else if isTooLong name then .error .nameTooLong
      else .ok (directory ++ [name])

def hasPath (files : FileSystem) (path : Path) : Bool :=
  (files.resolve path).isOk

def isDirectory (files : FileSystem) (path : Path) : Bool :=
  match files.resolve path with
  | .ok location => files.isDirectoryAt location
  | .error _ => false

def read (files : FileSystem) (path : Path) : Except SystemError Bytes := do
  let location ← files.resolve path
  match files.node? location with
  | some (.file contents _) => .ok contents
  | some (.directory _) => .error .isADirectory
  | none => .error .notFound

def readText (files : FileSystem) (path : Path) : Except SystemError String := do
  match Utf8.decode? (← files.read path) with
  | some text => .ok (String.ofList text)
  | none => .error .notUtf8

/-- Makes a file where nothing exists yet; a path with a slash at its end cannot name one. -/
def create (files : FileSystem) (path : Path) (contents : Bytes) :
    Except SystemError FileSystem := do
  let location ← files.resolveNew path
  if path.text.toList.getLast? = some '/' then .error .isADirectory
  else .ok (files.put location (.file contents none))

def write (files : FileSystem) (path : Path) (contents : Bytes) :
    Except SystemError FileSystem := do
  match files.resolve path with
  | .ok location =>
      match files.node? location with
      | some (.file _ program?) => .ok (files.put location (.file contents program?))
      | _ => .error .isADirectory
  | .error .notFound => files.create path contents
  | .error reason => .error reason

/-- Writes a file that must not exist yet. -/
@[irreducible]
def writeNew (files : FileSystem) (path : Path) (contents : Bytes) :
    Except SystemError FileSystem := do
  match files.resolve path with
  | .ok _ => .error .alreadyExists
  | .error .notFound => files.create path contents
  | .error reason => .error reason

def makeDirectory (files : FileSystem) (path : Path) : Except SystemError FileSystem := do
  let location ← files.resolveNew path
  if (files.node? location).isSome then .error .alreadyExists
  else .ok (files.put location .directory)

/-- The canonical path of an existing location: absolute, without steps that can be resolved. -/
def pathOf (location : Location) : Path :=
  ⟨"/" ++ String.intercalate "/" location⟩

/-- A path made canonical if it exists, and as it is otherwise. -/
def canonical (files : FileSystem) (path : Path) : Path :=
  match files.resolve path with
  | .ok location => pathOf location
  | .error _ => path

theorem lookup_filter_ne {location other : Location} (differs : other ≠ location)
    (nodes : List (Location × Node)) :
    (nodes.filter (fun entry => entry.1 != location)).lookup other = nodes.lookup other := by
  induction nodes with
  | nil => rfl
  | cons entry rest ih =>
      obtain ⟨place, node⟩ := entry
      by_cases replaced : place = location
      · subst replaced
        have apart : (other == place) = false := by simpa using differs
        simp [List.lookup_cons, apart, ih]
      · simp [replaced, List.lookup_cons, ih]

theorem node?_put (files : FileSystem) {location : Location} (inside : location ≠ [])
    (node : Node) (other : Location) :
    (files.put location node).node? other =
      if other = location then some node else files.node? other := by
  by_cases same : other = location
  · subst same
    simp [node?, put, inside]
  · have apart : (other == location) = false := by simpa using same
    simp [node?, put, same, List.lookup_cons, apart, lookup_filter_ne same]

end FileSystem

end ShaderVariants
