import ShaderVariants.Proofs.Asset
import ShaderVariants.Proofs.Session.Choices

/-!
Sessions that are rebuilt for a shader.

Whether a shader is selected or read again, the passes and the keywords are those of a new session
with that shader, whatever the session at hand went through.
-/
namespace ShaderVariants

theorem Selection.active?_starting (passes : List Pass) (before : Nat) :
    (starting passes (min before (passes.length - 1))).active? =
      if passes = [] then none else some (min before (passes.length - 1)) := by
  cases passes with
  | nil => rfl
  | cons first rest =>
      have below : min before ((first :: rest).length - 1) < (first :: rest).length := by
        simp only [List.length_cons]
        omega
      rw [starting_of_found (List.getElem?_eq_getElem below), if_neg (by simp)]

namespace Session

variable {machine : Machine} {shader reloaded : Asset}

theorem choices_restart (session : Session) (shader : Asset) (index : Nat) :
    let after := session.restart shader index
    after.selection.choices =
      (after.activePass?.map fun pass => List.replicate pass.groups.length 0).getD [] := by
  simp only [restart, activePass?, Selection.starting]
  cases found : (indexed (some shader)).1[index]? with
  | none => rfl
  | some pass => simp [found]

/-- Opens a shader that another session has: from the file it came from, or as it is if it was
never in a file. -/
def reopen (oracle : Oracle) (shader : Asset) (session : Session) (machine : Machine) : Step :=
  match shader.origin? with
  | some path => session.dispatch oracle (.selectShader path) machine
  | none => ⟨(session.selectShader (some shader)).1, machine, .ok ()⟩

theorem reopen_of_reload (read : shader.reload machine.files = .ok reloaded) (oracle : Oracle)
    (session : Session) :
    session.reopen oracle shader machine =
      ⟨(session.selectShader (some reloaded)).1, machine, .ok ()⟩ := by
  rcases Asset.reload_cases read with ⟨origin, rfl⟩ | ⟨path, origin, loaded⟩
  · rw [reopen, origin]
  · simp only [reopen, origin, dispatch, loaded]

theorem refreshedIndex_restart (session : Session) (shader : Asset) :
    (session.restart shader (session.refreshedIndex shader)).refreshedIndex shader =
      session.refreshedIndex shader := by
  have active := Selection.active?_starting (indexed (some shader)).1
    (session.selection.active?.getD 0)
  rw [refreshedIndex, restart, refreshedIndex, active]
  split
  · next empty => simp [empty]
  · simp

theorem refresh_again (read : shader.reload machine.files = .ok reloaded) (session : Session) :
    let after := session.restart reloaded (session.refreshedIndex reloaded)
    after.refresh machine.files = (after, .ok ()) := by
  intro after
  rw [refresh_of_reload rfl (Asset.reload_reload read), refreshedIndex_restart]
  rfl

/-- What a session was before does not show in it once it is rebuilt.  With another shader it is a
new session that selects that shader; after a refresh it has the passes and the keywords of a new
session that opens the shader from where it came, with the active pass at its old place or the last
one, and refreshing it again changes nothing. -/
theorem rebuilt_as_new (session : Session) (compiler : CompilerTarget) (settings : VariantSettings)
    (oracle : Oracle) (machine : Machine) :
    (∀ shader, (∀ current, session.shader? = some current → current.isSame shader = false) →
      session.selectShader (some shader) =
        ({ ((new compiler settings).selectShader (some shader)).1 with
            compiler := session.compiler, settings := session.settings }, true)) ∧
    (∀ current shader, session.shader? = some current → current.isSame shader = true →
      session.selectShader (some shader) = (session, false)) ∧
    (∀ after, session.refresh machine.files = (after, .ok ()) →
      ∃ shader fresh, session.shader? = some shader ∧
        (new compiler settings).reopen oracle shader machine = ⟨fresh, machine, .ok ()⟩ ∧
        after.shader? = fresh.shader? ∧ after.passes = fresh.passes ∧
        after.vocabulary = fresh.vocabulary ∧
        after.selection.active? =
          (if after.passes = [] then none
          else some (min (session.selection.active?.getD 0) (after.passes.length - 1))) ∧
        after.selection.choices =
          (after.activePass?.map fun pass => List.replicate pass.groups.length 0).getD [] ∧
        after.reports = session.reports ∧ after.compiler = session.compiler ∧
        after.settings = session.settings ∧
        after.refresh machine.files = (after, .ok ())) := by
  refine ⟨fun shader other => ?_, fun current shader selected same => ?_, fun after done => ?_⟩
  · have differs : session.hasShader (some shader) = false := by
      cases selected : session.shader? with
      | none => simp only [hasShader, selected]
      | some current => simp only [hasShader, selected, other current selected]
    rw [selectShader_of_other differs, selectShader_of_none rfl]
    rfl
  · rw [selectShader, if_pos (by simp only [hasShader, selected, same])]
  · rcases refresh_cases session machine.files with
      ⟨error, failed⟩ | ⟨shader, reloaded, selected, read, refreshed⟩
    · rw [failed] at done
      cases done
    · rw [refreshed] at done
      cases done
      have reopened := reopen_of_reload read oracle (new compiler settings)
      rw [selectShader_of_none rfl] at reopened
      exact ⟨shader, _, selected, reopened, rfl, rfl, rfl, Selection.active?_starting _ _,
        choices_restart .., rfl, rfl, rfl, refresh_again read session⟩

theorem rebuilt_as_new_of_edited :
    let machine (text : String) : Machine :=
      { files := { nodes := [(["lit.glsl"], .file (Utf8.encode text.toList) none)] } }
    let written := machine "#pragma multi_compile RED GREEN"
    let edited := machine "#pragma multi_compile BLUE"
    let path : Path := ⟨"/lit.glsl"⟩
    let opened := ((new .malioc {}).perform .defines (.command (.selectShader path)) written).session
    let session := (opened.perform .defines (.command (.selectOption 0 1)) written).session
    let unlit : Asset := .ofSource "unlit" "#pragma multi_compile _ FOG"
    session.selection = ⟨some 0, [1]⟩ ∧
      session.selectShader (some unlit) =
        ({ ((new .malisc {}).selectShader (some unlit)).1 with compiler := .malioc }, true) ∧
      session.selectShader session.shader? = (session, false) ∧
      ∃ after fresh, session.refresh edited.files = (after, .ok ()) ∧
        (new .malisc {}).dispatch .defines (.selectShader path) edited =
          ⟨fresh, edited, .ok ()⟩ ∧
        after.passes = fresh.passes ∧ after.vocabulary = fresh.vocabulary ∧
        after.vocabulary.words = ["BLUE"] ∧ after.selection.active? = some 0 ∧
        after.refresh edited.files = (after, .ok ()) := by
  intro machine written edited path opened session unlit
  obtain ⟨other, same, again⟩ := rebuilt_as_new session .malisc {} .defines edited
  have done : session.refresh edited.files = ((session.refresh edited.files).1, .ok ()) :=
    Prod.ext rfl (by decide +kernel)
  obtain ⟨shader, fresh, selected, reopened, -, passes, vocabulary, active, -, -, -, -, repeated⟩ :=
    again _ done
  have looked : session.shader?.map (fun shader => (shader.origin?, shader.isSame shader,
      shader.isSame unlit)) = some (some path, true, false) := by decide +kernel
  simp only [selected, Option.map_some, Option.some.injEq, Prod.mk.injEq] at looked
  obtain ⟨origin, itself, apart⟩ := looked
  rw [reopen, origin] at reopened
  refine ⟨by decide +kernel, ?_, ?_, _, fresh, done, reopened, passes, vocabulary,
    by decide +kernel, active.trans (by decide +kernel), repeated⟩
  · have kept : session.compiler = .malioc ∧ session.settings = {} := by decide +kernel
    rw [other unlit (by simp [selected, apart]), kept.1, kept.2]
    decide +kernel
  · rw [selected]
    exact same shader shader selected itself

end Session

end ShaderVariants
