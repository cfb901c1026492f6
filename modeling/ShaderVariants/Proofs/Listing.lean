import ShaderVariants.Listing
import ShaderVariants.Proofs.Keyword.Options
import ShaderVariants.Proofs.Session.Contributions

/-!
The listing of a session, and what can be selected in it.

The listing goes by the hints and the labels of a pass, a selection by its groups.  `lines` is the
listing line by line, each line with what it is about.  Both agree: what is listed can be selected,
nothing else can, and the label of an option is the keyword it defines
(`keywords_lists_selectable`).
-/
namespace ShaderVariants

namespace Pass

variable {declared : Keyword.Group} {option : Nat} {label : String}

theorem noKeywordLabel_ne (plain : Keyword.IsPlain label) : label ≠ noKeywordLabel := by
  rintro rfl
  have solid := plain.solid ' ' (by decide)
  cases solid

/-- The label of an option is the keyword that the option defines, unless it says that there is
none. -/
theorem keyword?_of_label (plain : ∀ option ∈ declared.options, Keyword.IsPlain option)
    (shown : (labels declared)[option]? = some label) :
    Selection.keyword? declared option = if label = noKeywordLabel then none else some label := by
  rw [labels, List.getElem?_map, Option.map_eq_some_iff] at shown
  obtain ⟨text, found, rfl⟩ := shown
  have named := noKeywordLabel_ne (plain text (List.mem_of_getElem? found))
  have picked : declared.option? option = some text := found
  unfold optionLabel
  by_cases empty : text.isEmpty = true
  · simp [Selection.keyword?, picked, Option.filter, empty]
  · simp [Selection.keyword?, picked, Option.filter, empty, named]

end Pass

namespace Listing

open Session

variable {session : Session} {shader : Asset} {pass : Pass} {place group option : Nat}

/-- A line of the listing, with what it is about. -/
inductive Line where
  | unselected
  | shader (name : String) (passes : Nat)
  | pass (active? : Option Nat) (place : Nat) (pass : Pass)
  | group (place group : Nat) (family : Keyword.Family) (hint : String)
  | option (place group option : Nat) (label : String)
  | vocabulary (words : List String)

namespace Line

def text : Line → String
  | .unselected => "No shader selected\n"
  | .shader name passes => "Shader: " ++ name ++ " (" ++ toString passes ++ " passes)\n"
  | .pass active? place pass =>
      (if active? = some place then "*" else " ") ++ s!"[{place}] " ++ pass.name
        ++ " (subshader " ++ toString pass.subshader ++ ", pass " ++ toString pass.place
        ++ ") stages: " ++ String.intercalate ", " (pass.stages.map (·.name)) ++ "; "
        ++ toString (Keyword.variantCount pass.groups) ++ " variants\n"
  | .group _ group family hint =>
      s!"    group {group} (" ++ family.keyword ++ "): " ++ hint ++ "\n"
  | .option _ _ option label => s!"        {option}: " ++ label ++ "\n"
  | .vocabulary words =>
      "Keywords (" ++ toString words.length ++ "): " ++ String.intercalate " " words ++ "\n"

/-- The group that the line introduces, if it is one of the pass at `place`. -/
def group? (place : Nat) : Line → Option Nat
  | .group here group _ _ => if here = place then some group else none
  | _ => none

/-- The option that the line shows and its label, if it is one of the group. -/
def option? (place group : Nat) : Line → Option (Nat × String)
  | .option here below option label =>
      if here = place ∧ below = group then some (option, label) else none
  | _ => none

end Line

def linesOfGroup (place group : Nat) (declared : Keyword.Group) (hint : String) : List Line :=
  .group place group declared.family hint ::
    (numbered 0 (Pass.labels declared)).map fun (option, label) =>
      .option place group option label

def linesOfPass (active? : Option Nat) (place : Nat) (pass : Pass) : List Line :=
  .pass active? place pass ::
    (numbered 0 (pass.groups.zip pass.hints)).flatMap fun (group, declared, hint) =>
      linesOfGroup place group declared hint

/-- The listing, line by line. -/
def lines (session : Session) : List Line :=
  match session.shader? with
  | none => [.unselected]
  | some shader =>
      .shader shader.name session.passes.length ::
        ((numbered 0 session.passes).flatMap (fun (place, pass) =>
          linesOfPass session.selection.active? place pass) ++
        [.vocabulary session.vocabulary.words])

/-- The groups that the listing shows for the pass at `place`. -/
def listedGroups (session : Session) (place : Nat) : List Nat :=
  (lines session).filterMap (Line.group? place)

/-- The options that the listing shows for a group of the pass at `place`, with their labels. -/
def listedOptions (session : Session) (place group : Nat) : List (Nat × String) :=
  (lines session).filterMap (Line.option? place group)

theorem join_flatMap {α β : Type} (text : β → String) (write : α → List β) (items : List α) :
    String.join ((items.flatMap write).map text) =
      String.join (items.map fun item => String.join ((write item).map text)) := by
  induction items with
  | nil => rfl
  | cons item rest ih =>
      rw [List.flatMap_cons, List.map_append, String.join_append, ih, List.map_cons,
        String.join_cons]

theorem groupLines_eq (place group : Nat) (declared : Keyword.Group) (hint : String) :
    groupLines group declared hint =
      String.join ((linesOfGroup place group declared hint).map Line.text) := by
  rw [linesOfGroup, List.map_cons, String.join_cons, List.map_map]
  rfl

theorem passLines_eq (active? : Option Nat) (place : Nat) (pass : Pass) :
    passLines active? place pass = String.join ((linesOfPass active? place pass).map Line.text) := by
  rw [linesOfPass, List.map_cons, String.join_cons, join_flatMap]
  simp only [← groupLines_eq]
  rfl

theorem keywords_eq_lines (session : Session) :
    keywords session = String.join ((lines session).map Line.text) := by
  unfold keywords lines
  cases session.shader? with
  | none => rfl
  | some shader =>
      have heading (passes : Nat) : (Line.shader shader.name passes).text =
          "Shader: " ++ shader.name ++ " (" ++ toString passes ++ " passes)\n" := rfl
      have vocabulary (words : List String) : (Line.vocabulary words).text =
          "Keywords (" ++ toString words.length ++ "): " ++ String.intercalate " " words ++ "\n" :=
        rfl
      simp only [List.map_cons, List.map_append, List.map_nil, String.join_cons,
        String.join_append, join_flatMap, ← passLines_eq, heading, vocabulary,
        String.append_assoc, String.join_nil, String.append_empty]

theorem numbered_eq_zipIdx {α : Type} (start : Nat) (items : List α) :
    numbered start items = (items.zipIdx start).map Prod.swap := by
  induction items generalizing start with
  | nil => rfl
  | cons item rest ih => rw [numbered, ih, List.zipIdx_cons, List.map_cons, Prod.swap_prod_mk]

theorem fst_numbered {α : Type} (items : List α) :
    (numbered 0 items).map Prod.fst = List.range items.length := by
  rw [numbered_eq_zipIdx, List.map_map, List.range_eq_range']
  exact List.zipIdx_map_snd 0 items

theorem mem_numbered {α : Type} {items : List α} {index : Nat} {item : α} :
    (index, item) ∈ numbered 0 items ↔ items[index]? = some item := by
  simp [numbered_eq_zipIdx, List.mk_mem_zipIdx_iff_getElem?]

/-- Of numbered items only the one at its place counts. -/
theorem flatMap_numbered {α β : Type} (start place : Nat) (items : List α) (write : α → List β) :
    (numbered start items).flatMap
        (fun entry => if entry.1 = place then write entry.2 else []) =
      if start ≤ place then (items[place - start]?.map write).getD [] else [] := by
  induction items generalizing start with
  | nil => simp [numbered]
  | cons item rest ih =>
      rw [numbered, List.flatMap_cons, ih]
      by_cases here : start = place
      · subst here
        rw [if_pos rfl, if_neg (Nat.not_succ_le_self start), if_pos (Nat.le_refl start),
          Nat.sub_self]
        simp
      · by_cases ahead : start ≤ place
        · obtain ⟨distance, rfl⟩ := Nat.exists_eq_add_of_lt (Nat.lt_of_le_of_ne ahead here)
          have next : start + distance + 1 - start = distance + 1 := by omega
          have below : start + distance + 1 - (start + 1) = distance := by omega
          rw [if_neg here, if_pos ahead, if_pos (by omega), next, below, List.getElem?_cons_succ,
            List.nil_append]
        · rw [if_neg ahead, if_neg here, if_neg (by omega), List.append_nil]

/-- What is found on the lines of the pass at `place`, if the lines of the other passes and the rest
of the listing say nothing about it. -/
theorem filterMap_lines {β : Type} (pick : Line → Option β) (session : Session) (place : Nat)
    (elsewhere : ∀ active? here pass, here ≠ place →
      (linesOfPass active? here pass).filterMap pick = [])
    (above : ∀ name passes, pick (.shader name passes) = none)
    (below : ∀ words, pick (.vocabulary words) = none)
    (selected : session.shader?.isSome = true) :
    (lines session).filterMap pick =
      (session.passes[place]?.map fun pass =>
        (linesOfPass session.selection.active? place pass).filterMap pick).getD [] := by
  obtain ⟨shader, shown⟩ := Option.isSome_iff_exists.mp selected
  have only (entry : Nat × Pass) :
      (linesOfPass session.selection.active? entry.1 entry.2).filterMap pick =
        if entry.1 = place then
          (linesOfPass session.selection.active? place entry.2).filterMap pick
        else [] := by
    split
    · next here => rw [here]
    · next apart => exact elsewhere _ _ _ apart
  have placed := flatMap_numbered 0 place session.passes fun pass =>
    (linesOfPass session.selection.active? place pass).filterMap pick
  rw [if_pos (Nat.zero_le place), Nat.sub_zero] at placed
  simp only [lines, shown, List.filterMap_cons, above, List.filterMap_append,
    List.filterMap_flatMap, only, placed, below, List.filterMap_nil, List.append_nil]

theorem groups_linesOfGroup (here place group : Nat) (declared : Keyword.Group) (hint : String) :
    (linesOfGroup here group declared hint).filterMap (Line.group? place) =
      if here = place then [group] else [] := by
  have none_below : ((numbered 0 (Pass.labels declared)).map fun (option, label) =>
      Line.option here group option label).filterMap (Line.group? place) = [] := by
    rw [List.filterMap_map, List.filterMap_eq_nil_iff]
    exact fun entry member => rfl
  rw [linesOfGroup, List.filterMap_cons, none_below, Line.group?]
  split <;> simp_all

theorem options_linesOfGroup (here below place group : Nat) (declared : Keyword.Group)
    (hint : String) :
    (linesOfGroup here below declared hint).filterMap (Line.option? place group) =
      if here = place ∧ below = group then numbered 0 (Pass.labels declared) else [] := by
  have heading : Line.option? place group (.group here below declared.family hint) = none := rfl
  simp only [linesOfGroup, List.filterMap_cons, heading, List.filterMap_map]
  split
  · next same =>
      have kept : (Line.option? place group ∘ fun entry : Nat × String =>
          Line.option here below entry.1 entry.2) = some := by
        funext entry
        exact if_pos same
      exact (congrArg (List.filterMap · _) kept).trans List.filterMap_some
  · next apart =>
      refine List.filterMap_eq_nil_iff.mpr fun entry member => ?_
      exact if_neg apart

theorem groups_linesOfPass (active? : Option Nat) (here place : Nat) (pass : Pass) :
    (linesOfPass active? here pass).filterMap (Line.group? place) =
      if here = place then List.range (pass.groups.zip pass.hints).length else [] := by
  have heading : Line.group? place (.pass active? here pass) = none := rfl
  simp only [linesOfPass, List.filterMap_cons, heading, List.filterMap_flatMap,
    groups_linesOfGroup]
  split
  · rw [← fst_numbered]
    exact List.flatMap_pure_eq_map Prod.fst _
  · exact List.flatMap_eq_nil_iff.mpr fun entry member => rfl

theorem options_linesOfPass (active? : Option Nat) (here place group : Nat) (pass : Pass) :
    (linesOfPass active? here pass).filterMap (Line.option? place group) =
      if here = place then
        ((pass.groups.zip pass.hints)[group]?.map fun entry =>
          numbered 0 (Pass.labels entry.1)).getD []
      else [] := by
  have heading : Line.option? place group (.pass active? here pass) = none := rfl
  have placed := flatMap_numbered 0 group (pass.groups.zip pass.hints) fun entry =>
    numbered 0 (Pass.labels entry.1)
  rw [if_pos (Nat.zero_le group), Nat.sub_zero] at placed
  simp only [linesOfPass, List.filterMap_cons, heading, List.filterMap_flatMap,
    options_linesOfGroup]
  split
  · next same => simpa only [same, true_and] using placed
  · next apart => simp [apart]

theorem listedGroups_eq (selected : session.shader?.isSome = true) (place : Nat) :
    listedGroups session place =
      (session.passes[place]?.map fun pass =>
        List.range (pass.groups.zip pass.hints).length).getD [] := by
  have elsewhere (active? : Option Nat) (here : Nat) (pass : Pass) (apart : here ≠ place) :
      (linesOfPass active? here pass).filterMap (Line.group? place) = [] := by
    rw [groups_linesOfPass, if_neg apart]
  rw [listedGroups,
    filterMap_lines _ session place elsewhere (fun _ _ => rfl) (fun _ => rfl) selected]
  simp only [groups_linesOfPass, if_true]

theorem listedOptions_eq (selected : session.shader?.isSome = true) (place group : Nat) :
    listedOptions session place group =
      (session.passes[place]?.map fun pass =>
        ((pass.groups.zip pass.hints)[group]?.map fun entry =>
          numbered 0 (Pass.labels entry.1)).getD []).getD [] := by
  have elsewhere (active? : Option Nat) (here : Nat) (pass : Pass) (apart : here ≠ place) :
      (linesOfPass active? here pass).filterMap (Line.option? place group) = [] := by
    rw [options_linesOfPass, if_neg apart]
  rw [listedOptions,
    filterMap_lines _ session place elsewhere (fun _ _ => rfl) (fun _ => rfl) selected]
  simp only [options_linesOfPass, if_true]

/-- The passes of a session have one hint for each group, and options that are no labels. -/
theorem aligned_of_consistent (consistent : Consistent session) (member : pass ∈ session.passes) :
    pass.hints = pass.groups.map (·.hint) ∧
      ∀ group ∈ pass.groups, ∀ option ∈ group.options, Keyword.IsPlain option := by
  have indexed_eq : session.passes = (indexed session.shader?).1 :=
    congrArg Prod.fst consistent.indexed_eq
  rw [indexed_eq] at member
  cases selected : session.shader? with
  | none =>
      rw [selected] at member
      cases member
  | some shader =>
      rw [selected] at member
      obtain ⟨known, groups⟩ := Pass.groups_of_mem_ofAsset member
      refine ⟨Pass.hints_of_mem_ofAsset member, fun group inside option declared => ?_⟩
      rw [groups] at inside
      exact Keyword.isPlain_of_mem_index inside declared

theorem zip_hints (consistent : Consistent session) (found : session.passes[place]? = some pass) :
    pass.groups.zip pass.hints = pass.groups.map fun declared => (declared, declared.hint) := by
  have aligned := (aligned_of_consistent consistent (List.mem_of_getElem? found)).1
  calc
    pass.groups.zip pass.hints = (pass.groups.map id).zip (pass.groups.map (·.hint)) := by
      rw [List.map_id, aligned]
    _ = pass.groups.map fun declared => (declared, declared.hint) := List.zip_map'

theorem mem_listedGroups (consistent : Consistent session)
    (selected : session.shader?.isSome = true) :
    group ∈ listedGroups session place ↔
      ∃ pass declared, session.passes[place]? = some pass ∧
        pass.groups[group]? = some declared := by
  rw [listedGroups_eq selected]
  cases found : session.passes[place]? with
  | none => simp
  | some pass =>
      rw [Option.map_some, Option.getD_some, zip_hints consistent found]
      simp [List.getElem?_eq_some_iff]

theorem mem_listedOptions (consistent : Consistent session)
    (selected : session.shader?.isSome = true) {label : String} :
    (option, label) ∈ listedOptions session place group ↔
      ∃ pass declared, session.passes[place]? = some pass ∧ pass.groups[group]? = some declared ∧
        (Pass.labels declared)[option]? = some label := by
  rw [listedOptions_eq selected]
  cases found : session.passes[place]? with
  | none => simp
  | some pass =>
      cases at_group : pass.groups[group]? with
      | none => simp [zip_hints consistent found, at_group]
      | some declared => simp [zip_hints consistent found, at_group, mem_numbered]

theorem pairwise_listedGroups (selected : session.shader?.isSome = true) (place : Nat) :
    (listedGroups session place).Pairwise (· < ·) := by
  rw [listedGroups_eq selected]
  cases session.passes[place]? with
  | none => exact .nil
  | some pass => exact List.pairwise_lt_range

theorem mem_listedGroups_iff_chooses (consistent : Consistent session)
    (selected : session.shader?.isSome = true) :
    group ∈ listedGroups session place ↔
      ∃ option after, session.Chooses place group option after := by
  rw [mem_listedGroups consistent selected]
  constructor
  · rintro ⟨pass, declared, found, at_group⟩
    have first : pass.Offers group 0 := ⟨declared, at_group, Selection.size_pos declared⟩
    exact ⟨0, chooses_of_offers consistent selected found first⟩
  · rintro ⟨option, after, chosen⟩
    obtain ⟨pass, declared, found, at_group, -⟩ := offers_of_chooses consistent chosen
    exact ⟨pass, declared, found, at_group⟩

theorem pairwise_listedOptions (selected : session.shader?.isSome = true) (place group : Nat) :
    ((listedOptions session place group).map Prod.fst).Pairwise (· < ·) := by
  rw [listedOptions_eq selected]
  cases session.passes[place]? with
  | none => exact .nil
  | some pass =>
      rw [Option.map_some, Option.getD_some]
      cases (pass.groups.zip pass.hints)[group]? with
      | none => exact .nil
      | some entry =>
          rw [Option.map_some, Option.getD_some, fst_numbered]
          exact List.pairwise_lt_range

theorem mem_listedOptions_iff_chooses (consistent : Consistent session)
    (selected : session.shader?.isSome = true) :
    option ∈ (listedOptions session place group).map Prod.fst ↔
      ∃ after, session.Chooses place group option after := by
  rw [List.mem_map, Prod.exists]
  constructor
  · rintro ⟨_, label, shown, rfl⟩
    obtain ⟨pass, declared, found, at_group, labelled⟩ :=
      (mem_listedOptions consistent selected).mp shown
    have below := (List.getElem?_eq_some_iff.mp labelled).1
    rw [Pass.labels, List.length_map] at below
    exact chooses_of_offers consistent selected found ⟨declared, at_group, below⟩
  · rintro ⟨after, chosen⟩
    obtain ⟨pass, declared, found, at_group, below, -⟩ := offers_of_chooses consistent chosen
    have labelled : (Pass.labels declared)[option]? =
        some (Pass.optionLabel declared.options[option]) := by
      rw [Pass.labels, List.getElem?_map, List.getElem?_eq_getElem below, Option.map_some]
    exact ⟨option, _, (mem_listedOptions consistent selected).mpr
      ⟨pass, declared, found, at_group, labelled⟩, rfl⟩

/-- A label says what its group contributes once the option is selected. -/
theorem contribution?_of_listed {after : Session} {label : String}
    (consistent : Consistent session) (selected : session.shader?.isSome = true)
    (shown : (option, label) ∈ listedOptions session place group)
    (chosen : session.Chooses place group option after) :
    after.contribution? group = (if label = Pass.noKeywordLabel then none else some label) ∧
      ∃ pass, session.passes[place]? = some pass ∧
        after.keywords = (List.range pass.groups.length).filterMap after.contribution? := by
  obtain ⟨pass, declared, found, at_group, below, active, choice⟩ :=
    offers_of_chooses consistent chosen
  obtain ⟨other, again, other_found, other_group, labelled⟩ :=
    (mem_listedOptions consistent selected).mp shown
  rw [found, Option.some.injEq] at other_found
  subst other_found
  rw [at_group, Option.some.injEq] at other_group
  subst other_group
  have plain := (aligned_of_consistent consistent (List.mem_of_getElem? found)).2 declared
    (List.mem_of_getElem? at_group)
  refine ⟨?_, pass, found, keywords_eq_contributions active⟩
  rw [← Pass.keyword?_of_label plain labelled]
  simp only [contribution?, active, at_group, choice, Option.bind_eq_bind, Option.bind_some]

/-- In a session with a shader the listing shows exactly the groups and the options that can be
selected, each once and in order, and the label of an option is the keyword that the group
contributes once it is selected. -/
theorem keywords_lists_selectable (reachable : Reachable session)
    (selected : session.shader? = some shader) :
    keywords session = String.join ((lines session).map Line.text) ∧
    (∀ pass ∈ session.passes, pass.hints = pass.groups.map (·.hint) ∧
      ∀ group ∈ pass.groups, ∀ option ∈ group.options, option ≠ Pass.noKeywordLabel) ∧
    (∀ place, (listedGroups session place).Pairwise (· < ·) ∧
      ∀ group, group ∈ listedGroups session place ↔
        ∃ option after, session.Chooses place group option after) ∧
    ∀ place group, ((listedOptions session place group).map Prod.fst).Pairwise (· < ·) ∧
      (∀ option, option ∈ (listedOptions session place group).map Prod.fst ↔
        ∃ after, session.Chooses place group option after) ∧
      ∀ option label after, (option, label) ∈ listedOptions session place group →
        session.Chooses place group option after →
        after.contribution? group = (if label = Pass.noKeywordLabel then none else some label) ∧
        ∃ pass, session.passes[place]? = some pass ∧
          after.keywords = (List.range pass.groups.length).filterMap after.contribution? := by
  have consistent := consistent_of_reachable reachable
  have some_shader : session.shader?.isSome = true := by rw [selected]; rfl
  refine ⟨keywords_eq_lines session, fun pass member => ?_, fun place =>
    ⟨pairwise_listedGroups some_shader place, fun group =>
      mem_listedGroups_iff_chooses consistent some_shader⟩,
    fun place group => ⟨pairwise_listedOptions some_shader place group, fun option =>
      mem_listedOptions_iff_chooses consistent some_shader, fun option label after shown chosen =>
      contribution?_of_listed consistent some_shader shown chosen⟩⟩
  obtain ⟨hints, plain⟩ := aligned_of_consistent consistent member
  refine ⟨hints, fun group inside option declared => ?_⟩
  exact Pass.noKeywordLabel_ne (plain group inside option declared)

theorem keywords_lists_feature :
    let source := "#pragma multi_compile _ LOW HIGH\n#pragma shader_feature FOG\n"
    let shader : Asset := .ofSource "lit" source
    let session :=
      ((Session.new .malioc {}).perform .defines (.selectShader (some shader)) {}).session
    session.shader? = some shader ∧ listedGroups session 0 = [0, 1] ∧
      listedOptions session 0 1 = [(0, Pass.noKeywordLabel), (1, "FOG")] ∧
      ∃ off on, session.Chooses 0 1 0 off ∧ off.contribution? 1 = none ∧
        session.Chooses 0 1 1 on ∧ on.contribution? 1 = some "FOG" := by
  intro source shader session
  have reachable : Reachable session := .perform (.new _ _) _ _ _
  have seen : listedGroups session 0 = [0, 1] ∧
      listedOptions session 0 1 = [(0, Pass.noKeywordLabel), (1, "FOG")] := by decide +kernel
  obtain ⟨headings, shown⟩ := seen
  obtain ⟨-, -, -, agree⟩ := @keywords_lists_selectable session shader reachable rfl
  obtain ⟨-, selectable, labelled⟩ := agree 0 1
  rw [shown] at selectable labelled
  obtain ⟨off, without⟩ := (selectable 0).mp (by decide)
  obtain ⟨on, with_keyword⟩ := (selectable 1).mp (by decide)
  refine ⟨rfl, headings, shown, off, on, without, ?_, with_keyword, ?_⟩
  · exact (labelled 0 Pass.noKeywordLabel off (by decide) without).1
  · exact (labelled 1 "FOG" on (by decide) with_keyword).1

end Listing

end ShaderVariants
