import ShaderVariants.Pass
import ShaderVariants.Proofs.Keyword.Declaration

/-!
The passes of a shader after indexing.

They stand in the order of their places, one for each source of the shader (`Enumerates`), with the
groups of that source alone.  The one vocabulary they are indexed with lists the options of all of
them, in the order in which they come (`words_ofAsset`).
-/
namespace ShaderVariants.Pass

open Keyword (Register Vocabulary)

variable {asset : Asset} {known : Vocabulary} {pass : Pass}

/-- What indexing takes over from a pass as it is. -/
def given (pass : Pass) : String × String × List Stage :=
  (pass.name, pass.source, pass.stages)

def position (pass : Pass) : Nat × Nat :=
  (pass.subshader, pass.place)

/-- The sources of the subshaders, each with its position; the first subshader has the number
`subshader`. -/
def positioned (subshader : Nat) (subshaders : List (List PassSource)) :
    List ((Nat × Nat) × PassSource) :=
  (subshaders.zipIdx subshader).flatMap fun (sources, subshader) =>
    sources.zipIdx.map fun (source, place) => ((subshader, place), source)

theorem positioned_cons (subshader : Nat) (sources : List PassSource)
    (rest : List (List PassSource)) :
    positioned subshader (sources :: rest) =
      sources.zipIdx.map (fun (source, place) => ((subshader, place), source)) ++
        positioned (subshader + 1) rest := by
  rw [positioned, List.zipIdx_cons, List.flatMap_cons, positioned]

theorem mem_positioned {subshaders : List (List PassSource)} {subshader place : Nat}
    {source : PassSource} :
    ((subshader, place), source) ∈ positioned 0 subshaders ↔
      ∃ sources, subshaders[subshader]? = some sources ∧ sources[place]? = some source := by
  simp only [positioned, List.mem_flatMap, List.mem_map]
  constructor
  · rintro ⟨⟨sources, number⟩, among, ⟨found, index⟩, inside, same⟩
    cases same
    exact ⟨sources, List.mem_zipIdx_iff_getElem?.mp among, List.mem_zipIdx_iff_getElem?.mp inside⟩
  · rintro ⟨sources, among, inside⟩
    exact ⟨(sources, subshader), List.mem_zipIdx_iff_getElem?.mpr among,
      (source, place), List.mem_zipIdx_iff_getElem?.mpr inside, rfl⟩

theorem pairwise_zipIdx {α : Type} (start : Nat) (entries : List α) :
    (entries.zipIdx start).Pairwise fun first later => first.2 < later.2 := by
  induction entries generalizing start with
  | nil => exact .nil
  | cons entry rest ih =>
      rw [List.zipIdx_cons]
      exact .cons (fun later member => List.le_snd_of_mem_zipIdx member) (ih (start + 1))

theorem pairwise_positioned (subshader : Nat) (subshaders : List (List PassSource)) :
    (positioned subshader subshaders).Pairwise fun first later =>
      Prod.Lex (· < ·) (· < ·) first.1 later.1 := by
  rw [positioned, List.pairwise_flatMap]
  constructor
  · rintro ⟨sources, number⟩ -
    rw [List.pairwise_map]
    exact (pairwise_zipIdx 0 sources).imp fun below => .right number below
  · apply (pairwise_zipIdx subshader subshaders).imp
    intro first later below one here other there
    obtain ⟨source, -, rfl⟩ := List.mem_map.mp here
    obtain ⟨source, -, rfl⟩ := List.mem_map.mp there
    exact .left _ _ below

theorem map_buildSubshader (subshader place : Nat) (sources : List PassSource)
    (known : Vocabulary) :
    (buildSubshader subshader place sources known).1.map (fun pass => (pass.position, pass.given)) =
      (sources.zipIdx place).map fun (source, place) =>
        ((subshader, place), source.name, source.source, source.stages) := by
  induction sources generalizing place known with
  | nil => rfl
  | cons source rest ih =>
      simp only [buildSubshader, List.zipIdx_cons, List.map_cons, ih]
      rfl

theorem map_buildAll (subshader : Nat) (subshaders : List (List PassSource))
    (known : Vocabulary) :
    (buildAll subshader subshaders known).1.map (fun pass => (pass.position, pass.given)) =
      (positioned subshader subshaders).map fun (position, source) =>
        (position, source.name, source.source, source.stages) := by
  induction subshaders generalizing subshader known with
  | nil => rfl
  | cons sources rest ih =>
      simp only [buildAll, positioned_cons, List.map_append, map_buildSubshader, ih, List.map_map]
      rfl

/-- The passes are those of the asset: they stand in the order of their positions, each is what the
asset has there, and none is missing. -/
structure Enumerates (passes : List Pass) (asset : Asset) : Prop where
  ordered : (passes.map position).Pairwise (Prod.Lex (· < ·) (· < ·))
  entries : ∀ subshader place given,
    (∃ pass ∈ passes, pass.position = (subshader, place) ∧ pass.given = given) ↔
      ∃ sources source, asset.subshaders[subshader]? = some sources ∧
        sources[place]? = some source ∧ given = (source.name, source.source, source.stages)

theorem enumerates_ofAsset (asset : Asset) (known : Vocabulary) :
    Enumerates (ofAsset asset known).1 asset := by
  have listed := map_buildAll 0 asset.subshaders known
  constructor
  · have positions : (ofAsset asset known).1.map position =
        (positioned 0 asset.subshaders).map Prod.fst := by
      have fronts := congrArg (List.map Prod.fst) listed
      rw [List.map_map, List.map_map] at fronts
      exact fronts
    rw [positions, List.pairwise_map]
    exact pairwise_positioned 0 asset.subshaders
  · intro subshader place given
    calc
      _ ↔ ((subshader, place), given) ∈
          (buildAll 0 asset.subshaders known).1.map fun pass => (pass.position, pass.given) := by
        simp only [List.mem_map, Prod.mk.injEq, ofAsset]
      _ ↔ _ := by
        rw [listed, List.mem_map]
        constructor
        · rintro ⟨⟨position, source⟩, member, same⟩
          cases same
          obtain ⟨sources, among, inside⟩ := mem_positioned.mp member
          exact ⟨sources, source, among, inside, rfl⟩
        · rintro ⟨sources, source, among, inside, rfl⟩
          exact ⟨_, mem_positioned.mpr ⟨sources, among, inside⟩, rfl⟩

theorem map_positioned (subshader : Nat) (subshaders : List (List PassSource)) :
    (positioned subshader subshaders).map Prod.snd = subshaders.flatten := by
  induction subshaders generalizing subshader with
  | nil => rfl
  | cons sources rest ih =>
      have here : (sources.zipIdx.map fun (source, place) => ((subshader, place), source)).map
          Prod.snd = sources := by
        rw [List.map_map]
        exact List.zipIdx_map_fst 0 sources
      rw [positioned_cons, List.map_append, here, ih, List.flatten_cons]

theorem ofAsset_eq_nil_iff (asset : Asset) (known : Vocabulary) :
    (ofAsset asset known).1 = [] ↔ asset.passes = [] := by
  calc
    _ ↔ positioned 0 asset.subshaders = [] := by
      rw [ofAsset, ← List.map_eq_nil_iff, map_buildAll, List.map_eq_nil_iff]
    _ ↔ _ := by
      rw [← List.map_eq_nil_iff (f := Prod.snd), map_positioned, Asset.passes]

theorem build_of_mem_buildSubshader {subshader place : Nat} {sources : List PassSource}
    (built : pass ∈ (buildSubshader subshader place sources known).1) :
    ∃ place source known, pass = (build subshader place source known).1 := by
  induction sources generalizing place known with
  | nil => cases built
  | cons source rest ih =>
      rcases List.mem_cons.mp built with rfl | later
      · exact ⟨place, source, known, rfl⟩
      · exact ih later

theorem build_of_mem_buildAll {subshader : Nat} {subshaders : List (List PassSource)}
    (built : pass ∈ (buildAll subshader subshaders known).1) :
    ∃ subshader place source known, pass = (build subshader place source known).1 := by
  induction subshaders generalizing subshader known with
  | nil => cases built
  | cons sources rest ih =>
      rcases List.mem_append.mp built with here | later
      · exact ⟨subshader, build_of_mem_buildSubshader here⟩
      · exact ih later

/-- The groups of a pass are those its own source declares. -/
theorem groups_of_mem_ofAsset (built : pass ∈ (ofAsset asset known).1) :
    ∃ known, pass.groups = (Keyword.index pass.source.toList known).1 := by
  obtain ⟨subshader, place, source, known, rfl⟩ := build_of_mem_buildAll built
  exact ⟨known, rfl⟩

/-- The hints of a pass are those of its groups, one each, in order. -/
theorem hints_of_mem_ofAsset (built : pass ∈ (ofAsset asset known).1) :
    pass.hints = pass.groups.map (·.hint) := by
  obtain ⟨subshader, place, source, known, rfl⟩ := build_of_mem_buildAll built
  rfl

def options (pass : Pass) : List String :=
  pass.groups.flatMap (·.options)

theorem foldl_buildSubshader (subshader place : Nat) (sources : List PassSource)
    (known : Vocabulary) :
    ((buildSubshader subshader place sources known).1.flatMap options).foldl Vocabulary.insert
      known = (buildSubshader subshader place sources known).2 := by
  induction sources generalizing place known with
  | nil => rfl
  | cons source rest ih =>
      have here : (build subshader place source known).1.options.foldl Vocabulary.insert known =
          (build subshader place source known).2 := Keyword.foldl_groupsOfLines _ known
      rw [buildSubshader, List.flatMap_cons, List.foldl_append, here]
      exact ih (place + 1) _

/-- The words recorded while a shader is indexed are the options of its passes. -/
theorem foldl_buildAll (subshader : Nat) (subshaders : List (List PassSource))
    (known : Vocabulary) :
    ((buildAll subshader subshaders known).1.flatMap options).foldl Vocabulary.insert known =
      (buildAll subshader subshaders known).2 := by
  induction subshaders generalizing subshader known with
  | nil => rfl
  | cons sources rest ih =>
      rw [buildAll, List.flatMap_append, List.foldl_append, foldl_buildSubshader]
      exact ih (subshader + 1) _

theorem words_ofAsset (asset : Asset) :
    (ofAsset asset .empty).2.words =
      (((ofAsset asset .empty).1.flatMap options).filter (· ≠ "")).eraseDups := by
  have new : Vocabulary.isNew .empty = fun option => decide (option ≠ "") := by
    funext option
    rw [Bool.eq_iff_iff, Vocabulary.isNew_iff, decide_eq_true_eq]
    exact and_iff_left List.not_mem_nil
  rw [ofAsset, ← foldl_buildAll, Vocabulary.words_foldl_insert, new]
  rfl

/-- What is done to the vocabulary while the passes are indexed. -/
def recordings (passes : List Pass) : List Vocabulary.Change :=
  (passes.flatMap options).map .insert

theorem foldl_recordings (asset : Asset) (known : Vocabulary) :
    (recordings (ofAsset asset known).1).foldl Vocabulary.change known =
      (ofAsset asset known).2 := by
  rw [recordings, List.foldl_map]
  exact foldl_buildAll 0 asset.subshaders known

/-- Indexing a shader from an empty vocabulary keeps every pass in its place, reads the groups of
each off its own source, and lists the options once each, where they come first.  Whatever is
recorded or forgotten later, the words that are known are the words that are listed, none of them
empty or listed twice, also if they are looked up in a set that is kept beside the list. -/
theorem ofAsset_enumerates (asset : Asset) :
    let built := ofAsset asset .empty
    Enumerates built.1 asset ∧
    (∀ pass ∈ built.1,
      (∀ known, pass.groups = (Keyword.index pass.source.toList known).1) ∧
      (∀ group ∈ pass.groups, group.options ≠ []) ∧
      pass.hints.length = pass.groups.length ∧
      ∀ index : Nat, pass.hints[index]? = pass.groups[index]?.map Keyword.Group.hint) ∧
    built.2.words = ((built.1.flatMap options).filter (· ≠ "")).eraseDups ∧
    ∀ changes : List Vocabulary.Change,
      let after := changes.foldl Vocabulary.change built.2
      let register := (recordings built.1 ++ changes).foldl Register.change .empty
      register.ordered = after.words ∧
      (∀ word, register.contains word = after.contains word ∧
        (after.contains word = true ↔ word ∈ after.words)) ∧
      "" ∉ after.words ∧ after.words.Nodup := by
  intro built
  refine ⟨enumerates_ofAsset asset .empty, ?_, words_ofAsset asset, ?_⟩
  · intro pass member
    obtain ⟨known, groups⟩ := groups_of_mem_ofAsset member
    have hints := hints_of_mem_ofAsset member
    refine ⟨fun other => ?_, fun group _ => group.nonempty, ?_, fun index => ?_⟩
    · rw [groups]
      exact Keyword.groups_eq_of_vocabulary known other _
    · rw [hints, List.length_map]
    · rw [hints, List.getElem?_map]
  · intro changes after register
    have run : (recordings built.1 ++ changes).foldl Vocabulary.change .empty = after := by
      rw [List.foldl_append, foldl_recordings]
    have represents := Register.represents_empty.run (recordings built.1 ++ changes)
    have sound := Vocabulary.sound_empty.run (recordings built.1 ++ changes)
    rw [run] at represents sound
    refine ⟨represents.ordered, fun word => ⟨?_, Vocabulary.contains_iff⟩, sound.named,
      sound.distinct⟩
    exact represents.contains_eq word

end ShaderVariants.Pass
