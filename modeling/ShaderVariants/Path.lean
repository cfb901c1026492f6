import ShaderVariants.Text.Quoted

/-!
File paths.

A path is kept as it was written.  Two paths are the same when their components agree
(`Path.agrees`): repeated and trailing slashes do not count, nor does `.` except in front, while
`..` is never resolved.
-/
namespace ShaderVariants

/-- A path as written, with `/` between its components. -/
structure Path where
  text : String
deriving DecidableEq, Repr

namespace Path

inductive Component where
  | root
  | here
  | up
  | name (name : String)
deriving DecidableEq, Repr

def pieces (path : Path) : List String :=
  (path.text.toList.splitOn '/').map String.ofList

/-- Whether the path starts at the root. -/
def isAbsolute (path : Path) : Bool :=
  path.text.toList.head? == some '/'

/-- The step at the very front, which is kept even where it leads nowhere. -/
def lead? (path : Path) : Option Component :=
  if path.isAbsolute then some .root
  else if path.pieces.head? = some "." then some .here
  else none

def body (path : Path) : List String :=
  if path.lead?.isSome then path.pieces.tail else path.pieces

/-- Whether a piece of the body leads nowhere. -/
def isIdle (piece : String) : Bool :=
  piece = "" || piece = "."

def stepOf (piece : String) : Component :=
  if piece = ".." then .up else .name piece

/-- The steps of the path, in order. -/
def components (path : Path) : List Component :=
  path.lead?.toList ++ (path.body.filter (fun piece => !isIdle piece)).map stepOf

def agrees (left right : Path) : Bool :=
  left.components = right.components

theorem agrees_iff {left right : Path} :
    left.agrees right = true ↔ left.components = right.components :=
  decide_eq_true_iff

/-- The text of the leading step and the given pieces after it. -/
def assemble (lead? : Option Component) (pieces : List String) : Path :=
  match lead?, pieces with
  | some .root, pieces => ⟨"/" ++ String.intercalate "/" pieces⟩
  | some .here, pieces => ⟨String.intercalate "/" ("." :: pieces)⟩
  | _, pieces => ⟨String.intercalate "/" pieces⟩

/-- `pieces`, last one first, without those at the end that lead nowhere. -/
def backwards (pieces : List String) : List String :=
  pieces.reverse.dropWhile isIdle

/-- The path without its last step; the root and the empty path have no parent. -/
def parent? (path : Path) : Option Path :=
  match backwards path.body with
  | _ :: before => some (assemble path.lead? (backwards before.reverse).reverse)
  | [] => if path.lead? = some .here then some ⟨""⟩ else none

/-- `path`, read from inside `base`; an absolute path stays what it is. -/
def join (base path : Path) : Path :=
  if path.isAbsolute then path
  else if base.text.isEmpty || base.text.toList.getLast? = some '/' then ⟨base.text ++ path.text⟩
  else ⟨base.text ++ "/" ++ path.text⟩

/-- The name at the end of the path, if its last step is a name. -/
def fileName? (path : Path) : Option String :=
  match path.components.getLast? with
  | some (.name name) => some name
  | _ => none

/-- A file name split at its last dot, unless the dot is its first character. -/
def splitName (name : String) : String × Option String :=
  let backward := name.toList.reverse
  match backward.dropWhile (· ≠ '.') with
  | _ :: c :: rest =>
      (String.ofList (c :: rest).reverse, some (String.ofList (backward.takeWhile (· ≠ '.')).reverse))
  | _ => (name, none)

/-- The file name without its extension. -/
def stem? (path : Path) : Option String :=
  path.fileName?.map fun name => (splitName name).1

/-- What follows the last dot of the file name. -/
def extension? (path : Path) : Option String :=
  path.fileName?.bind fun name => (splitName name).2

def quoted (path : Path) : String :=
  String.ofList (Text.quoted path.text.toList)

end Path

end ShaderVariants
