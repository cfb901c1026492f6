import ShaderVariants.FileSystem.Edit

/-!
Watches on directories, and the notifications that edits cause through them.

A watch stays with its directory when that is moved, and goes on to report under the path it was
set up with, unless the directory around it is watched as well and reports the move of that very
path: then the watch ends.  `notifications` says what an edit is reported as, and `follow` what
becomes of the watches.
-/
namespace ShaderVariants

inductive ChangeKind where
  | modified
  | created
  | removed
  | other
deriving DecidableEq, Repr

def ChangeKind.isRelevant : ChangeKind → Bool
  | .modified | .created => true
  | .removed | .other => false

/-- What the system tells: a change, and the absolute paths it concerns. -/
structure Notification where
  kind : ChangeKind
  paths : List Path
deriving DecidableEq, Repr

namespace Path

/-- The order of steps: the root, then `.`, then `..`, then names. -/
def Component.rank : Component → Nat
  | .root => 0
  | .here => 1
  | .up => 2
  | .name _ => 3

def Component.precedes : Component → Component → Bool
  | .name left, .name right => left < right
  | left, right => left.rank < right.rank

def notAfter : List Component → List Component → Bool
  | [], _ => true
  | _ :: _, [] => false
  | left :: lefts, right :: rights =>
      left.precedes right || (!right.precedes left && notAfter lefts rights)

def startsWith (path front : Path) : Bool :=
  front.components.isPrefixOf path.components

end Path

/-- A watch: where the watched directory is now, the path that changes in it are reported under,
and other paths it was set up with. -/
structure Watch where
  location : Location
  path : Path
  others : List Path := []
deriving DecidableEq, Repr

namespace Watch

/-- Whether the watch was set up with `path`. -/
def knows (watch : Watch) (path : Path) : Bool :=
  (watch.path :: watch.others).any path.agrees

def absolute (files : FileSystem) (path : Path) : Path :=
  (FileSystem.pathOf files.workingDirectory).join path

/-- Sets up a watch at a path, if something is there.  The last path that leads to a directory is
the one it is reported under. -/
def add (files : FileSystem) (watches : List Watch) (path : Path) : List Watch :=
  match files.resolve path with
  | .error _ => watches
  | .ok location =>
      let others := match watches.find? (fun watch => watch.location = location) with
        | some watch => watch.path :: watch.others
        | none => []
      watches.filter (fun watch => watch.location != location)
        ++ [⟨location, absolute files path, others⟩]

/-- Sets up the watches for the given files: one for each directory around them, in path order.
Of paths with the same steps the last one is used. -/
def around (files : FileSystem) (paths : List Path) : List Watch :=
  let parents := (paths.filterMap Path.parent?).reverse.eraseDupsBy Path.agrees
  (parents.mergeSort fun left right =>
    Path.notAfter left.components right.components).foldl (add files) []

/-- The path under which a change at `location` is reported by the directory around it. -/
def reportedAs? (watches : List Watch) (location : Location) : Option Path := do
  let name ← location.getLast?
  let watch ← watches.find? fun watch => watch.location = location.dropLast
  return watch.path.join ⟨name⟩

/-- The path under which a change of what is at `location` is reported if that is itself
watched. -/
def own? (watches : List Watch) (location : Location) : Option Path :=
  (watches.find? fun watch => watch.location = location).map (·.path)

def place? (files : FileSystem) (path : Path) : Option Location :=
  (files.resolveNew path).toOption

def report (kind : ChangeKind) (path? : Option Path) : List Notification :=
  path?.toList.map fun path => ⟨kind, [path]⟩

/-- What a move is reported as: at the old place, at the new one, once more with both, and then by
what it replaces and by what is moved. -/
def moveNotifications (watches : List Watch) (source target : Location) : List Notification :=
  let both := match reportedAs? watches source, reportedAs? watches target with
    | some before, some after => [⟨.modified, [before, after]⟩]
    | _, _ => []
  report .modified (reportedAs? watches source) ++ report .modified (reportedAs? watches target)
    ++ both ++ report .modified (own? watches target) ++ report .modified (own? watches source)

/-- The notifications that an edit of `files` causes.  What is watched itself also reports when it
is written, moved, replaced or removed. -/
def notifications (watches : List Watch) (files : FileSystem) (edit : Edit) :
    List Notification :=
  let everywhere (location : Location) : List Notification :=
    report .modified (reportedAs? watches location) ++ report .modified (own? watches location)
  match edit with
  | .append path _ | .changeMode path => (files.resolve path).toOption.toList.flatMap everywhere
  | .replace path _ | .moveAway path => (place? files path).toList.flatMap everywhere
  | .link path _ | .makeDirectory path =>
      report .created ((place? files path).bind (reportedAs? watches))
  | .remove path =>
      match files.resolve path with
      | .error _ => []
      | .ok location =>
          report .modified (own? watches location) ++ report .removed (reportedAs? watches location)
  | .rename path destination =>
      match files.resolve path, files.resolveNew destination with
      | .ok source, .ok target =>
          if source = target then [] else moveNotifications watches source target
      | _, _ => []

/-- Ends the watch that was set up with `path`, if there is one, and all that report under paths
below. -/
def forget (watches : List Watch) (path : Path) : List Watch :=
  if watches.any (·.knows path) then
    watches.filter fun watch => !watch.knows path && !watch.path.startsWith path
  else watches

/-- The watches after the move of `source`, a move that may have been reported. -/
def leave (watches : List Watch) (source : Location) : List Watch :=
  match reportedAs? watches source with
  | some path => forget watches path
  | none => watches

def follow (watches : List Watch) (files : FileSystem) (edit : Edit) : List Watch :=
  match edit with
  | .append _ _ | .changeMode _ | .link _ _ | .makeDirectory _ => watches
  | .replace path _ =>
      match place? files path with
      | some location => watches.filter fun watch => watch.location != location
      | none => watches
  | .remove path =>
      match files.resolve path with
      | .ok location => watches.filter fun watch => watch.location != location
      | .error _ => watches
  | .moveAway path =>
      match files.resolve path with
      | .ok location =>
          (leave watches location).filter fun watch => !location.isPrefixOf watch.location
      | .error _ => watches
  | .rename path destination =>
      match files.resolve path, files.resolveNew destination with
      | .ok source, .ok target =>
          if source = target then watches
          else
            ((leave watches source).filter fun watch => watch.location != target).map fun watch =>
              { watch with location := FileSystem.relocate source target watch.location }
      | _, _ => watches

end Watch

end ShaderVariants
