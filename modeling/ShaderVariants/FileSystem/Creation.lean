import ShaderVariants.FileSystem.Basic

/-!
Making directories and files: a directory together with the directories around it, and a file under
a name nobody uses.
-/
namespace ShaderVariants

/-- A path, its parent, the parent of that, and so on; `count` bounds their number. -/
def Path.outward : Nat → Path → List Path
  | 0, _ => []
  | count + 1, path =>
      path :: match path.parent? with
        | some parent => Path.outward count parent
        | none => []

def Path.ancestors (path : Path) : List Path :=
  Path.outward (path.components.length + 1) path

namespace FileSystem

/-- Makes the first path of a list, and the ones after it as far as they are missing.  The empty
path is where relative paths start, so it exists; a directory that exists is not made again. -/
def makeChain (files : FileSystem) : List Path → Except SystemError FileSystem
  | [] => .error .noParent
  | path :: outer =>
      if path.text.isEmpty then .ok files
      else
        match files.makeDirectory path with
        | .ok files => .ok files
        | .error .notFound =>
            match makeChain files outer with
            | .error reason => .error reason
            | .ok files =>
                match files.makeDirectory path with
                | .ok files => .ok files
                | .error reason => if files.isDirectory path then .ok files else .error reason
        | .error reason => if files.isDirectory path then .ok files else .error reason

/-- Makes a directory and every missing directory around it. -/
def makeDirectories (files : FileSystem) (path : Path) : Except SystemError FileSystem :=
  files.makeChain path.ancestors

def sixDigits (number : Nat) : String :=
  let digits := Nat.toDigits 10 number
  String.ofList (List.replicate (6 - digits.length) '0' ++ digits)

/-- Tries the numbers from `number` on, `attempts` of them, until a file of that name is new. -/
def writeNumbered (files : FileSystem) (directory : Path) (stem suffix : String)
    (contents : Bytes) : (attempts number : Nat) → Except SystemError (Path × FileSystem)
  | 0, _ => .error .alreadyExists
  | attempts + 1, number =>
      let path := directory.join ⟨stem ++ sixDigits number ++ suffix⟩
      match files.writeNew path contents with
      | .ok files => .ok (path, files)
      | .error .alreadyExists =>
          writeNumbered files directory stem suffix contents attempts (number + 1)
      | .error reason => .error reason

/-- Writes a new file between whose `stem` and `suffix` the name has a number. -/
def writeTemporary (files : FileSystem) (directory : Path) (stem suffix : String)
    (contents : Bytes) : Except SystemError (Path × FileSystem) :=
  files.writeNumbered directory stem suffix contents (files.nodes.length + 1) 0

end FileSystem

end ShaderVariants
