import ShaderVariants.Toml.Statement

/-!
Whole TOML documents.

`parse?` reads the statements and then fills one table after the other: the assignments after a
header belong to its table.
-/
namespace ShaderVariants.Toml

inductive Header where
  | top
  | table (path : List String)
  | element (path : List String)

structure Section where
  header : Header
  assignments : List (List String × Value)

/-- The statements cut at their headers; `header` is the one in force in front of them. -/
def sections (header : Header) (assignments : List (List String × Value)) :
    List Statement → List Section
  | [] => [⟨header, assignments.reverse⟩]
  | .assign path value :: rest => sections header ((path, value) :: assignments) rest
  | .table path :: rest => ⟨header, assignments.reverse⟩ :: sections (.table path) [] rest
  | .element path :: rest => ⟨header, assignments.reverse⟩ :: sections (.element path) [] rest

def fill? (entries : Entries) (assignments : List (List String × Value)) : Option Entries :=
  assignments.foldlM (fun entries (path, value) => entries.assign? path value) entries

def place? (document : Entries) (part : Section) : Option Entries :=
  match part.header with
  | .top => fill? document part.assignments
  | .table path =>
      document.define? (fun
        | none => (fill? [] part.assignments).map (.table .defined)
        | some (.table .passed entries) => (fill? entries part.assignments).map (.table .defined)
        | some _ => none) path
  | .element path =>
      document.define? (fun
        | none => (fill? [] part.assignments).map fun element => .tables [element]
        | some (.tables elements) =>
            (fill? [] part.assignments).map fun element => .tables (elements ++ [element])
        | some _ => none) path

/-- A text without the byte order mark at its start. -/
def withoutMark : Text → Text
  | '\uFEFF' :: rest => rest
  | text => text

def parse? (text : Text) : Option (List (String × Value)) := do
  let text := withoutMark text
  let statements ← statements? (text.length + 1) text
  let document ← (sections .top [] statements).foldlM place? []
  return Entries.values document

end ShaderVariants.Toml
