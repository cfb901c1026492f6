import ShaderVariants.Session

/-!
Sessions as text: the passes with their keyword groups, and the reports.
-/
namespace ShaderVariants.Listing

/-- Items with their positions, the first of them at `place`. -/
def numbered (place : Nat) : List α → List (Nat × α)
  | [] => []
  | item :: rest => (place, item) :: numbered (place + 1) rest

/-- The lines of a keyword group: its hint, and its options by position. -/
def groupLines (place : Nat) (group : Keyword.Group) (hint : String) : String :=
  s!"    group {place} (" ++ group.family.keyword ++ "): " ++ hint ++ "\n" ++
    String.join ((numbered 0 (Pass.labels group)).map fun (option, label) =>
      s!"        {option}: " ++ label ++ "\n")

/-- The lines of a pass; a star marks the active one. -/
def passLines (active? : Option Nat) (place : Nat) (pass : Pass) : String :=
  let marker := if active? = some place then "*" else " "
  let stages := String.intercalate ", " (pass.stages.map (·.name))
  marker ++ s!"[{place}] " ++ pass.name
    ++ " (subshader " ++ toString pass.subshader ++ ", pass " ++ toString pass.place
    ++ ") stages: " ++ stages ++ "; " ++ toString (Keyword.variantCount pass.groups) ++ " variants\n"
    ++ String.join ((numbered 0 (pass.groups.zip pass.hints)).map fun (group, declared, hint) =>
      groupLines group declared hint)

def keywords (session : Session) : String :=
  match session.shader? with
  | none => "No shader selected\n"
  | some shader =>
      let words := session.vocabulary.words
      "Shader: " ++ shader.name ++ " (" ++ toString session.passes.length ++ " passes)\n"
        ++ String.join ((numbered 0 session.passes).map fun (place, pass) =>
          passLines session.selection.active? place pass)
        ++ "Keywords (" ++ toString words.length ++ "): " ++ String.intercalate " " words ++ "\n"

/-- A report under the heading of its stage.  The text ends with a line break, and an exit code
other than zero is told. -/
def reportBlock (stage : Stage) (report : Report) : String :=
  let ending :=
    if report.text.isEmpty || report.text.toList.getLast? = some '\n' then "" else "\n"
  let exit :=
    match report.exit? with
    | some code => if code = 0 then "" else "(compiler exited with code " ++ toString code ++ ")\n"
    | none => ""
  "=== " ++ stage.label ++ " ===\n" ++ report.text ++ ending ++ exit

def reports (reports : Reports) : String :=
  if reports.isEmpty then "No reports\n"
  else String.join (reports.inOrder.map fun (stage, report) => reportBlock stage report)

end ShaderVariants.Listing
