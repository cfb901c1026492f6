import ShaderVariants.FileSystem.Creation

/-!
Edits of files by other programs.

`install` makes the directories it needs, also those that a path only passes through on its way to
`..`.  The edits themselves need their directories: `apply` makes an edit, or says why the system
refuses it.
-/
namespace ShaderVariants

inductive Edit where
  /-- Something complete takes the place of what is there, if anything. -/
  | replace (path : Path) (node : Node)
  | append (path : Path) (contents : Bytes)
  /-- A directory may not be searched any more, a file not be run. -/
  | changeMode (path : Path)
  /-- Something complete appears where there was nothing. -/
  | link (path : Path) (node : Node)
  | makeDirectory (path : Path)
  /-- A file is removed. -/
  | remove (path : Path)
  /-- What is there is moved to a place nobody watches. -/
  | moveAway (path : Path)
  | rename (path destination : Path)

/-- What is left of a node when nobody may search or run it. -/
def Node.closed : Node → Node
  | .directory _ => .directory false
  | .file contents _ => .file contents none

theorem Node.isDirectory_closed (node : Node) : node.closed.isDirectory = node.isDirectory := by
  cases node <;> rfl

theorem Node.isSearchable_closed (node : Node) : node.closed.isSearchable = false := by
  cases node <;> rfl

namespace FileSystem

/-- Puts a node at a path, in directories that are made where they are missing.  A directory that
is there already keeps what it holds. -/
def install (files : FileSystem) (path : Path) (node : Node) : FileSystem :=
  match files.makeDirectories (path.parent?.getD ⟨""⟩) with
  | .error _ => files
  | .ok prepared =>
      match prepared.resolveNew path with
      | .error _ => prepared
      | .ok location =>
          if node.isDirectory && prepared.isDirectoryAt location then prepared
          else (prepared.erase location).put location node

/-- `files` without what is at a path, and without everything below it. -/
def remove (files : FileSystem) (path : Path) : FileSystem :=
  match files.resolve path with
  | .ok location => files.erase location
  | .error _ => files

/-- Where a location is once `source` has become `target`. -/
def relocate (source target location : Location) : Location :=
  if source.isPrefixOf location then target ++ location.drop source.length else location

/-- `files` with everything at and below `source` at `target` instead. -/
def move (files : FileSystem) (source target : Location) : FileSystem :=
  if source = target then files
  else
    { files with
      nodes := (files.erase target).nodes.map fun (location, node) =>
        (relocate source target location, node) }

/-- Whether something is below `location`. -/
def isOccupied (files : FileSystem) (location : Location) : Bool :=
  files.nodes.any fun entry => location.isPrefixOf entry.1 && entry.1 != location

/-- The existing location that a path leads to by its name; a dot or two at the end are none. -/
def locateNamed (files : FileSystem) (path : Path) : Except SystemError Location := do
  let location ← files.resolve path
  let _ ← files.resolveNew path
  return location

/-- The location where a directory, or something else, can be put.  A directory takes the place of
an empty directory only, and anything else that of a file; a slash at the end of the path asks for a
directory. -/
def locateTarget (files : FileSystem) (path : Path) (isDirectory : Bool) :
    Except SystemError Location := do
  let location ← files.resolveNew path
  let asksDirectory := path.text.toList.getLast? = some '/'
  match files.node? location with
  | some (.directory _) =>
      if !isDirectory then .error .isADirectory
      else if files.isOccupied location then .error .directoryNotEmpty
      else .ok location
  | some (.file _ _) =>
      if isDirectory || asksDirectory then .error .notADirectory else .ok location
  | none => if !isDirectory && asksDirectory then .error .notADirectory else .ok location

def replace (files : FileSystem) (path : Path) (node : Node) : Except SystemError FileSystem := do
  let location ← files.locateTarget path node.isDirectory
  return files.put location node

def link (files : FileSystem) (path : Path) (node : Node) : Except SystemError FileSystem :=
  if files.hasPath path then .error .alreadyExists else files.replace path node

def append (files : FileSystem) (path : Path) (contents : Bytes) :
    Except SystemError FileSystem := do
  let location ← files.resolve path
  match files.node? location with
  | some (.file before program?) =>
      return files.put location (.file (before ++ contents) program?)
  | _ => .error .isADirectory

def close (files : FileSystem) (path : Path) : Except SystemError FileSystem := do
  let location ← files.resolve path
  match files.node? location with
  | some node => return files.put location node.closed
  | none => .error .notFound

def removeFile (files : FileSystem) (path : Path) : Except SystemError FileSystem := do
  let location ← files.locateNamed path
  if files.isDirectoryAt location then .error .isADirectory else .ok (files.erase location)

/-- Moves what is at a path to another path; a directory cannot move into itself. -/
def rename (files : FileSystem) (path destination : Path) : Except SystemError FileSystem := do
  let source ← files.locateNamed path
  if (files.resolve destination).toOption = some source then return files
  let target ← files.locateTarget destination (files.isDirectoryAt source)
  if source.isPrefixOf target then .error .invalidArgument else .ok (files.move source target)

/-- `files` after an edit, unless the system refuses that. -/
def apply (files : FileSystem) : Edit → Except SystemError FileSystem
  | .replace path node => files.replace path node
  | .append path contents => files.append path contents
  | .changeMode path => files.close path
  | .link path node => files.link path node
  | .makeDirectory path => files.makeDirectory path
  | .remove path => files.removeFile path
  | .moveAway path => do
      let location ← files.locateNamed path
      return files.erase location
  | .rename path destination => files.rename path destination

theorem relocate_append (source target rest : Location) :
    relocate source target (source ++ rest) = target ++ rest := by
  simp [relocate]

theorem relocate_of_not_isPrefixOf {source location : Location} (target : Location)
    (outside : source.isPrefixOf location = false) :
    relocate source target location = location := by
  simp [relocate, outside]

end FileSystem

end ShaderVariants
