import ShaderVariants.Proofs.Asset

/-!
Loading what a manifest describes.

Each pass has a source or a reason why it has none (`HasSource`, `FailsWith`).  The passes are
loaded in the order of the document, whatever subshaders they are in (`Reading.each_flatten`), and
the first one without a source ends that: the passes behind it are not looked at.
-/
namespace ShaderVariants

namespace Reading

variable {α β γ : Type} {files : FileSystem}

theorem andThen_assoc (reading : Reading α) (next : α → Reading β) (last : β → Reading γ) :
    (reading.andThen next).andThen last =
      reading.andThen fun result => (next result).andThen last := by
  induction reading with
  | done result => cases result <;> rfl
  | ask path rest ih => exact congrArg (ask path) (funext ih)

theorem andThen_done (reading : Reading α) :
    (reading.andThen fun result => .done (.ok result)) = reading := by
  induction reading with
  | done result => cases result <;> rfl
  | ask path rest ih => exact congrArg (ask path) (funext ih)

theorem each_append (reading : α → Reading β) (front back : List α) :
    each reading (front ++ back) = (each reading front).andThen fun results =>
      (each reading back).andThen fun others => .done (.ok (results ++ others)) := by
  induction front with
  | nil => exact (andThen_done _).symm
  | cons item rest ih =>
      simp only [List.cons_append, each, ih, andThen_assoc, andThen]

/-- Items in groups are read one after the other as without the groups. -/
theorem each_flatten (reading : α → Reading β) (groups : List (List α)) :
    each reading groups.flatten =
      (each (each reading) groups).andThen fun results => .done (.ok results.flatten) := by
  induction groups with
  | nil => rfl
  | cons group rest ih =>
      simp only [List.flatten_cons, each_append, ih, each, andThen_assoc, andThen]

theorem asked_andThen_done (reading : Reading α) (f : α → β) :
    (reading.andThen fun result => .done (.ok (f result))).asked files = reading.asked files := by
  induction reading with
  | done result => cases result <;> rfl
  | ask path rest ih => exact congrArg (path :: ·) (ih _)

theorem run_andThen_done (reading : Reading α) (f : α → β) :
    (reading.andThen fun result => .done (.ok (f result))).run files =
      (reading.run files).map f := by
  rw [run_andThen]
  cases reading.run files <;> rfl

theorem asked_andThen_of_error {reading : Reading α} {reason : AssetError}
    (ran : reading.run files = .error reason) (next : α → Reading β) :
    (reading.andThen next).asked files = reading.asked files := by
  induction reading with
  | done result =>
      cases ran
      rfl
  | ask path rest ih => exact congrArg (path :: ·) (ih _ ran)

/-- Reading goes on to an item once all items in front of it have been read. -/
theorem asked_each_append {reading : α → Reading β} {front : List α}
    (read : ∀ item ∈ front, ∃ result, (reading item).run files = .ok result) (back : List α) :
    (each reading (front ++ back)).asked files =
      (front.flatMap fun item => (reading item).asked files) ++ (each reading back).asked files := by
  induction front with
  | nil => rfl
  | cons item rest ih =>
      obtain ⟨result, ran⟩ := read item List.mem_cons_self
      have later := ih fun other member => read other (List.mem_cons_of_mem item member)
      rw [List.cons_append, each, asked_andThen ran, asked_andThen_done, later, List.flatMap_cons,
        List.append_assoc]

/-- Reading ends with the first item that cannot be read. -/
theorem asked_each_of_error {reading : α → Reading β} {item : α} {reason : AssetError}
    (ran : (reading item).run files = .error reason) (later : List α) :
    (each reading (item :: later)).asked files = (reading item).asked files :=
  asked_andThen_of_error ran _

end Reading

/-- The first item that fails decides the error. -/
theorem mapM_eq_error_iff {α β ε : Type} {f : α → Except ε β} {items : List α} {reason : ε} :
    items.mapM f = .error reason ↔
      ∃ before item after, items = before ++ item :: after ∧
        (∀ earlier ∈ before, ∃ result, f earlier = .ok result) ∧ f item = .error reason := by
  constructor
  · intro failed
    induction items with
    | nil => cases failed
    | cons first rest ih =>
        rw [List.mapM_cons] at failed
        cases head : f first with
        | error other =>
            rw [head] at failed
            cases failed
            exact ⟨[], first, rest, rfl, List.forall_mem_nil _, head⟩
        | ok result =>
            have later : rest.mapM f = .error reason := by
              cases tail : rest.mapM f with
              | error other => simpa [head, tail, bind, Except.bind] using failed
              | ok others => simp [head, tail, bind, Except.bind, pure, Except.pure] at failed
            obtain ⟨before, item, after, rfl, fine, stops⟩ := ih later
            exact ⟨first :: before, item, after, rfl,
              List.forall_mem_cons.mpr ⟨⟨result, head⟩, fine⟩, stops⟩
  · rintro ⟨before, item, after, rfl, fine, stops⟩
    induction before with
    | nil =>
        rw [List.nil_append, List.mapM_cons, stops]
        rfl
    | cons first before ih =>
        obtain ⟨⟨result, head⟩, fine_below⟩ := List.forall_mem_cons.mp fine
        rw [List.cons_append, List.mapM_cons, head, ih fine_below]
        rfl

theorem exists_mapM_iff {α β ε : Type} {f : α → Except ε β} {items : List α} :
    (∃ results, items.mapM f = .ok results) ↔ ∀ item ∈ items, ∃ result, f item = .ok result := by
  constructor
  · rintro ⟨results, ran⟩
    rw [mapM_eq_ok_iff] at ran
    induction ran with
    | nil => exact List.forall_mem_nil _
    | cons here _ ih => exact List.forall_mem_cons.mpr ⟨⟨_, here⟩, ih⟩
  · intro fine
    cases ran : items.mapM f with
    | ok results => exact ⟨results, rfl⟩
    | error reason =>
        obtain ⟨before, item, after, rfl, -, stops⟩ := mapM_eq_error_iff.mp ran
        obtain ⟨result, succeeds⟩ := fine item (by simp)
        rw [stops] at succeeds
        cases succeeds

namespace ManifestPass

variable {files : FileSystem} {manifest : Path} {pass : ManifestPass} {source : PassSource}
  {error : AssetError}

/-- The file that the source of a pass is in, unless the pass has code of its own or names none. -/
def file? (manifest : Path) (pass : ManifestPass) : Option Path :=
  if pass.code?.isSome then none else pass.source?.map (Manifest.base manifest).join

/-- A pass has the stages it lists, if it lists none then none, and without a list the usual two. -/
def Declares (pass : ManifestPass) (stages : List Stage) : Prop :=
  pass.stages? = some stages ∨ pass.stages? = none ∧ stages = [.vertex, .fragment]

/-- A pass has code of its own, or names a file that can be read. -/
def HasSource (files : FileSystem) (manifest : Path) (pass : ManifestPass) : Prop :=
  (∃ code, pass.code? = some code) ∨
    ∃ relative text, pass.source? = some relative ∧
      files.readText ((Manifest.base manifest).join relative) = .ok text

/-- What a pass of a manifest is loaded as. -/
inductive LoadsAs (files : FileSystem) (manifest : Path) (pass : ManifestPass) : PassSource → Prop
  | code {code : String} {stages : List Stage} :
      pass.code? = some code → pass.Declares stages →
      LoadsAs files manifest pass ⟨pass.name, code, stages, none⟩
  | source {relative : Path} {text : String} {stages : List Stage} :
      pass.code? = none → pass.source? = some relative →
      files.readText ((Manifest.base manifest).join relative) = .ok text →
      pass.Declares stages →
      LoadsAs files manifest pass
        ⟨pass.name, text, stages, some ((Manifest.base manifest).join relative)⟩

/-- Why a pass of a manifest cannot be loaded. -/
inductive FailsWith (files : FileSystem) (manifest : Path) (pass : ManifestPass) :
    AssetError → Prop
  | unreadable {relative : Path} {reason : SystemError} :
      pass.code? = none → pass.source? = some relative →
      files.readText ((Manifest.base manifest).join relative) = .error reason →
      FailsWith files manifest pass (.read ((Manifest.base manifest).join relative) reason)
  | missing : pass.code? = none → pass.source? = none →
      FailsWith files manifest pass (.missingSource manifest pass.name)

theorem declares_iff {stages : List Stage} :
    pass.Declares stages ↔ pass.stages?.getD usualStages = stages := by
  unfold Declares usualStages
  cases pass.stages? <;> simp [eq_comm]

theorem load_eq_ok_iff :
    pass.load files manifest = .ok source ↔ pass.LoadsAs files manifest source := by
  constructor
  · intro loaded
    unfold load at loaded
    cases code : pass.code? with
    | some text =>
        simp only [code] at loaded
        cases loaded
        exact .code code (declares_iff.mpr rfl)
    | none =>
        cases named : pass.source? with
        | none => simp [code, named] at loaded
        | some relative =>
            simp only [code, named] at loaded
            cases readable : files.readText ((Manifest.base manifest).join relative) with
            | error reason => simp [readable] at loaded
            | ok text =>
                simp only [readable] at loaded
                cases loaded
                exact .source code named readable (declares_iff.mpr rfl)
  · intro loads
    cases loads with
    | code code declared => simp [load, code, declares_iff.mp declared]
    | source code named readable declared =>
        simp [load, code, named, readable, declares_iff.mp declared]

theorem load_eq_error_iff :
    pass.load files manifest = .error error ↔ pass.FailsWith files manifest error := by
  constructor
  · intro failed
    unfold load at failed
    cases code : pass.code? with
    | some text => simp [code] at failed
    | none =>
        cases named : pass.source? with
        | none =>
            simp only [code, named] at failed
            cases failed
            exact .missing code named
        | some relative =>
            simp only [code, named] at failed
            cases unreadable : files.readText ((Manifest.base manifest).join relative) with
            | ok text => simp [unreadable] at failed
            | error reason =>
                simp only [unreadable] at failed
                cases failed
                exact .unreadable code named unreadable
  · intro fails
    cases fails with
    | unreadable code named unreadable => simp [load, code, named, unreadable]
    | missing code named => simp [load, code, named]

theorem hasSource_iff :
    pass.HasSource files manifest ↔ ∃ source, pass.load files manifest = .ok source := by
  constructor
  · rintro (⟨text, code⟩ | ⟨relative, text, named, readable⟩)
    · exact ⟨_, load_eq_ok_iff.mpr (.code code (declares_iff.mpr rfl))⟩
    · cases code : pass.code? with
      | some text => exact ⟨_, load_eq_ok_iff.mpr (.code code (declares_iff.mpr rfl))⟩
      | none => exact ⟨_, load_eq_ok_iff.mpr (.source code named readable (declares_iff.mpr rfl))⟩
  · rintro ⟨source, loaded⟩
    cases load_eq_ok_iff.mp loaded with
    | code code => exact .inl ⟨_, code⟩
    | source _ named readable => exact .inr ⟨_, _, named, readable⟩

theorem not_hasSource_iff :
    ¬ pass.HasSource files manifest ↔ ∃ error, pass.FailsWith files manifest error := by
  simp only [hasSource_iff, ← load_eq_error_iff]
  cases pass.load files manifest <;> simp

theorem asked_reading_eq (pass : ManifestPass) :
    (pass.reading manifest).asked files = (pass.file? manifest).toList := by
  unfold reading file?
  cases pass.code? with
  | some code => rfl
  | none =>
      cases pass.source? with
      | none => rfl
      | some relative =>
          simp only [Reading.asked]
          cases files.readText ((Manifest.base manifest).join relative) <;> rfl

end ManifestPass

namespace Manifest

variable {files : FileSystem} {path : Path} {manifest : Manifest} {asset : Asset}
  {error : AssetError} {before after : List ManifestPass} {pass : ManifestPass}

theorem asked_reading_eq (path : Path) (manifest : Manifest) :
    (manifest.reading path).asked files =
      (Reading.each (ManifestPass.reading path) manifest.subshaders.flatten).asked files := by
  rw [reading, Reading.asked_andThen_done, Reading.each_flatten, Reading.asked_andThen_done]

/-- The passes are loaded as they would be without the subshaders around them. -/
theorem passes_load (files : FileSystem) (path : Path) (manifest : Manifest) :
    (manifest.load files path).map Asset.passes =
      manifest.subshaders.flatten.mapM (ManifestPass.load files path) := by
  have flat : (Reading.each (ManifestPass.reading path) manifest.subshaders.flatten).run files = _ :=
    Reading.run_each _ _
  simp only [ManifestPass.run_reading] at flat
  rw [← flat, ← run_reading, reading, Reading.each_flatten, Reading.run_andThen_done,
    Reading.run_andThen_done]
  cases (Reading.each (Reading.each (ManifestPass.reading path)) manifest.subshaders).run files <;>
    rfl

/-- The first pass in the document without a source, behind the passes `before`. -/
def Offends (files : FileSystem) (path : Path) (manifest : Manifest) (before : List ManifestPass)
    (pass : ManifestPass) : Prop :=
  (∃ after, manifest.subshaders.flatten = before ++ pass :: after) ∧
    (∀ earlier ∈ before, earlier.HasSource files path) ∧ ¬ pass.HasSource files path

theorem exists_load_iff :
    (∃ asset, manifest.load files path = .ok asset) ↔
      ∀ pass ∈ manifest.subshaders.flatten, pass.HasSource files path := by
  simp only [ManifestPass.hasSource_iff]
  rw [← exists_mapM_iff, ← passes_load]
  cases manifest.load files path <;> simp [Except.map]

theorem load_eq_error_iff :
    manifest.load files path = .error error ↔
      ∃ before pass, Offends files path manifest before pass ∧
        pass.FailsWith files path error := by
  have flat : manifest.load files path = .error error ↔
      manifest.subshaders.flatten.mapM (ManifestPass.load files path) = .error error := by
    rw [← passes_load]
    cases manifest.load files path <;> simp [Except.map]
  rw [flat, mapM_eq_error_iff]
  simp only [Offends, ManifestPass.load_eq_error_iff, ← ManifestPass.hasSource_iff]
  constructor
  · rintro ⟨before, pass, after, whole, fine, fails⟩
    exact ⟨before, pass, ⟨⟨after, whole⟩, fine, ManifestPass.not_hasSource_iff.mpr ⟨_, fails⟩⟩, fails⟩
  · rintro ⟨before, pass, ⟨⟨after, whole⟩, fine, -⟩, fails⟩
    exact ⟨before, pass, after, whole, fine, fails⟩

theorem asked_of_load (loaded : manifest.load files path = .ok asset) :
    (manifest.reading path).asked files =
      manifest.subshaders.flatten.filterMap (ManifestPass.file? path) := by
  have fine := exists_load_iff.mp ⟨asset, loaded⟩
  simp only [ManifestPass.hasSource_iff, ← ManifestPass.run_reading] at fine
  have read := Reading.asked_each_append fine []
  rw [List.append_nil] at read
  rw [asked_reading_eq, read, List.filterMap_eq_flatMap_toList]
  simp only [ManifestPass.asked_reading_eq]
  exact List.append_nil _

theorem asked_of_offends (offends : Offends files path manifest before pass) :
    (manifest.reading path).asked files =
      (before ++ [pass]).filterMap (ManifestPass.file? path) := by
  obtain ⟨⟨after, whole⟩, fine, unread⟩ := offends
  obtain ⟨error, fails⟩ := ManifestPass.not_hasSource_iff.mp unread
  have stops : (pass.reading path).run files = .error error := by
    rw [ManifestPass.run_reading, ManifestPass.load_eq_error_iff]
    exact fails
  simp only [ManifestPass.hasSource_iff, ← ManifestPass.run_reading] at fine
  rw [asked_reading_eq, whole, Reading.asked_each_append fine, Reading.asked_each_of_error stops,
    List.filterMap_eq_flatMap_toList, List.flatMap_append, List.flatMap_singleton]
  simp only [ManifestPass.asked_reading_eq]

/-- A manifest is loaded if each of its passes has a source, as the passes of its subshaders in their
order; otherwise the first pass in the document that has none decides the error.  Of the files of
passes without code of their own, those are asked for that come no later than that first one. -/
theorem load_decides (files : FileSystem) (path : Path) (manifest : Manifest) :
    ((∃ asset, manifest.load files path = .ok asset) ↔
      ∀ pass ∈ manifest.subshaders.flatten, pass.HasSource files path) ∧
    (∀ asset, manifest.load files path = .ok asset ↔
      ∃ subshaders,
        List.Forall₂ (List.Forall₂ (ManifestPass.LoadsAs files path)) manifest.subshaders
          subshaders ∧
        asset = ⟨manifest.name?.getD (nameOfFile path), some path, subshaders⟩) ∧
    (∀ error, manifest.load files path = .error error ↔
      ∃ before pass, Offends files path manifest before pass ∧
        pass.FailsWith files path error) ∧
    (manifest.reading path).run files = manifest.load files path ∧
    (∀ asset, manifest.load files path = .ok asset →
      (manifest.reading path).asked files =
        manifest.subshaders.flatten.filterMap (ManifestPass.file? path)) ∧
    (∀ before pass, Offends files path manifest before pass →
      (manifest.reading path).asked files =
        (before ++ [pass]).filterMap (ManifestPass.file? path)) ∧
    ∀ text, Asset.isManifest path = true → files.readText path = .ok text →
      ofText? text.toList = some manifest →
      Asset.load files path = manifest.load files path := by
  refine ⟨exists_load_iff, fun asset => ?_, fun error => load_eq_error_iff, manifest.run_reading,
    fun asset => asked_of_load, fun before pass => asked_of_offends, ?_⟩
  · simp only [load_eq_ok_iff, mapM_eq_ok_iff, ManifestPass.load_eq_ok_iff]
  · intro text named readable decoded
    rw [Asset.load, readable]
    simp only [named, decoded, if_true]

/-- The second pass has no source, and the third names a file that does not exist. -/
def withoutSource : Manifest where
  name? := none
  subshaders := [[⟨"a", some ⟨"x"⟩, some "c", none⟩, ⟨"b", none, none, none⟩],
    [⟨"d", some ⟨"y"⟩, none, none⟩]]

theorem load_decides_missing :
    let path : Path := ⟨"/m.toml"⟩
    let text := "[[subshader]]\npass=[\x7bname=\"a\",source=\"x\",code=\"c\"\x7d," ++
      "\x7bname=\"b\"\x7d]\n[[subshader]]\npass=[\x7bname=\"d\",source=\"y\"\x7d]"
    let files : FileSystem := { nodes := [(["m.toml"], .file (Utf8.encode text.toList) none)] }
    (Asset.isManifest path = true ∧ files.readText path = .ok text ∧
      ofText? text.toList = some withoutSource) ∧
    Offends files path withoutSource [⟨"a", some ⟨"x"⟩, some "c", none⟩] ⟨"b", none, none, none⟩ ∧
    Asset.load files path = .error (.missingSource path "b") ∧
    (withoutSource.reading path).asked files = [] := by
  intro path text files
  have read : Asset.isManifest path = true ∧ files.readText path = .ok text ∧
      ofText? text.toList = some withoutSource := by decide +kernel
  have offends : Offends files path withoutSource [⟨"a", some ⟨"x"⟩, some "c", none⟩]
      ⟨"b", none, none, none⟩ := by
    refine ⟨⟨_, rfl⟩, ?_, ManifestPass.not_hasSource_iff.mpr ⟨_, .missing rfl rfl⟩⟩
    intro earlier member
    rw [List.mem_singleton.mp member]
    exact .inl ⟨"c", rfl⟩
  obtain ⟨-, -, fails, -, -, asked, loads⟩ := load_decides files path withoutSource
  refine ⟨read, offends, ?_, asked _ _ offends⟩
  rw [loads text read.1 read.2.1 read.2.2]
  exact (fails _).mpr ⟨_, _, offends, .missing rfl rfl⟩

end Manifest

end ShaderVariants
