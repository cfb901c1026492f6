import ShaderVariants.FileSystem.Basic

/-!
Starting programs.

A program named with a slash is the file at that path; any other is looked up in the directories of
the search path.
-/
namespace ShaderVariants.FileSystem

def programAt (files : FileSystem) (path : Path) : Except SystemError Program := do
  let location ← files.resolve path
  match files.node? location with
  | some (.file _ (some program)) => .ok program
  | some _ => .error .permissionDenied
  | none => .error .notFound

/-- As much of a name as is looked up: one byte more than a name may have shows that it is too
long. -/
def lookedUp (name : String) : String :=
  String.ofList (Text.takeBytes (nameLimit + 1) name.toList)

/-- The first program of that name in the directories.  Directories without one are passed over;
if all are, a refused permission wins over `last`, the reason of the last one. -/
def search (files : FileSystem) (name : String) (denied : Bool) (last : SystemError) :
    List Path → Except SystemError Program
  | [] => .error (if denied then .permissionDenied else last)
  | directory :: rest =>
      match files.programAt (directory.join ⟨lookedUp name⟩) with
      | .ok program => .ok program
      | .error .permissionDenied => search files name true last rest
      | .error .notFound => search files name denied .notFound rest
      | .error .notADirectory => search files name denied .notADirectory rest
      | .error reason => .error reason

def findProgram (files : FileSystem) (searchPath : List Path) (program : Path) :
    Except SystemError Program :=
  let name := program.text
  if name.isEmpty then .error .notFound
  else if name.toList.contains '/' then files.programAt program
  else files.search name false .notFound searchPath

def launch (files : FileSystem) (searchPath : List Path) (program : Path)
    (arguments : List String) : Except SystemError Completion :=
  if (program.text :: arguments).any (fun text => text.toList.contains '\x00') then
    .error .nulInArgument
  else
    match files.findProgram searchPath program with
    | .error reason => .error reason
    | .ok run => .ok (run arguments fun path => (files.read path).toOption)

end ShaderVariants.FileSystem
