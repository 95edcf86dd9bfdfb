import VisualNovel.Playback.Basic

/-!
# Movements in place

Nothing takes back what an action has changed before it fails, so that a movement which fails leaves
the playback as it was (`Action.Atomic`) is due to the order of what it does. It first looks where
it would end, which may fail and changes nothing (`Action.ReadsOnly`), and then changes the
playback, which cannot fail (`Action.Succeeds`). `Action.ReadsOnly.bind` and `Action.Succeeds.bind`
put such parts together.

Hence a movement in place is told by what it leads to (`Action.Atomic.run_eq`), and
`Playback.advance_eq` and its companions say what that is.
-/

namespace VisualNovel
namespace Playback

/-! ## Runs of actions -/

namespace Action

section
variable {α β : Type}

/-- The second action goes on with what the first has left, unless that has failed. -/
theorem run_bind (first : Action α) (next : α → Action β) (playback : Playback) :
    (first >>= next).run playback = match first.run playback with
      | (.ok result, playback) => (next result).run playback
      | (.error e, playback) => (.error e, playback) := by
  change ExceptT.bindCont next (first.run playback).1 (first.run playback).2 = _
  rcases first.run playback with ⟨_ | result, after⟩ <;> rfl

/-- Looking at the playback leads on with the playback. -/
theorem on_get_bind (next : Playback → Action β) (playback : Playback) :
    (get >>= next).on playback = (next playback).on playback :=
  rfl

/-- What can fail without a playback leads on when it has not failed. -/
theorem on_liftM_bind (result : Except PlaybackError α) (next : α → Action β)
    (playback : Playback) :
    ((liftM result : Action α) >>= next).on playback
      = result.bind fun result => (next result).on playback := by
  cases result <;> rfl

end

/-! ## Actions that fail without a trace -/

section
variable {α β : Type}

/-- The action only looks at the playback. -/
def ReadsOnly (action : Action α) : Prop :=
  ∀ playback, (action.run playback).2 = playback

/-- The action does not fail. -/
def Succeeds (action : Action α) : Prop :=
  ∀ playback, (action.run playback).1.isOk = true

/-- The action leaves the playback as it was if it fails. -/
def Atomic (action : Action α) : Prop :=
  ∀ playback, (action.run playback).1.isOk = false → (action.run playback).2 = playback

variable {action first : Action α} {next : α → Action β}

/-- What only looks leaves no trace, whether it fails or not. -/
theorem ReadsOnly.atomic (h : action.ReadsOnly) : action.Atomic :=
  fun playback _ => h playback

/-- What does not fail leaves no trace of a failure. -/
theorem Succeeds.atomic (h : action.Succeeds) : action.Atomic := by
  intro playback hfails
  rw [h playback] at hfails
  cases hfails

/-- Looking at the playback first does not make an action less atomic. -/
theorem ReadsOnly.bind (hfirst : first.ReadsOnly) (hnext : ∀ result, (next result).Atomic) :
    (first >>= next).Atomic := by
  intro playback hfails
  have hsame : (first.run playback).2 = playback := hfirst playback
  rw [run_bind] at hfails ⊢
  rcases hrun : first.run playback with ⟨_ | result, after⟩ <;> rw [hrun] at hsame hfails
  · exact hsame
  · cases hsame
    exact hnext result _ hfails

/-- What cannot fail may follow what cannot fail. -/
theorem Succeeds.bind (hfirst : first.Succeeds) (hnext : ∀ result, (next result).Succeeds) :
    (first >>= next).Succeeds := by
  intro playback
  have hok : (first.run playback).1.isOk = true := hfirst playback
  rw [run_bind]
  rcases hrun : first.run playback with ⟨_ | result, after⟩ <;> rw [hrun] at hok
  · cases hok
  · exact hnext result _

/-- Looking at the playback changes nothing. -/
theorem readsOnly_get : (get : Action Playback).ReadsOnly :=
  fun _ => rfl

/-- What is worked out beforehand changes nothing, be it a failure or not. -/
theorem readsOnly_liftM (result : Except PlaybackError α) : (liftM result : Action α).ReadsOnly :=
  fun _ => rfl

/-- A failure by itself changes nothing. -/
theorem readsOnly_throw (e : PlaybackError) : (throw e : Action α).ReadsOnly :=
  fun _ => rfl

/-- A given result does not fail. -/
theorem succeeds_pure (result : α) : (pure result : Action α).Succeeds :=
  fun _ => rfl

/-- Looking at the playback does not fail. -/
theorem succeeds_get : (get : Action Playback).Succeeds :=
  fun _ => rfl

/-- A change does not fail. -/
theorem succeeds_modify (f : Playback → Playback) : (modify f : Action PUnit).Succeeds :=
  fun _ => rfl

/-- To go where a movement ends does not fail. -/
theorem succeeds_commit (landing : Landing) (entered : Bool) : (commit landing entered).Succeeds :=
  fun _ => rfl

/-- The order matters: a failure after a change is without a trace only if the change is none. -/
theorem atomic_modify_bind_throw_iff {f : Playback → Playback} {e : PlaybackError} :
    ((modify f : Action PUnit) >>= fun _ => (throw e : Action α)).Atomic
      ↔ ∀ playback, f playback = playback :=
  ⟨fun h playback => h playback rfl, fun h playback _ => h playback⟩

/-- What an atomic action leads to tells all of what it does in place. -/
theorem Atomic.run_eq (h : action.Atomic) (playback : Playback) :
    action.run playback = match action.on playback with
      | .ok (after, result) => (.ok result, after)
      | .error e => (.error e, playback) := by
  have hsame := h playback
  simp only [on]
  rcases hrun : action.run playback with ⟨e | result, after⟩ <;> rw [hrun] at hsame
  exact congrArg (Prod.mk (Except.error e)) (hsame rfl)

end

/-! ## The movements -/

/-- Going on fails before the playback is moved: at the look-up of the scene, or in the entry of the
scene that a jump ahead leads to. -/
theorem advance_atomic : advance.Atomic := by
  refine readsOnly_get.bind fun playback => ?_
  split
  · exact (readsOnly_throw _).atomic
  · split
    · exact (succeeds_pure _).atomic
    · dsimp only
      split
      · exact (succeeds_commit _ _).atomic
      · exact (succeeds_commit _ _).atomic
      · exact (readsOnly_liftM _).bind fun landing => (succeeds_commit landing true).atomic

/-- A branch that is not there and a scene that cannot be entered are found out before the choice is
noted. -/
theorem choose_atomic (branchId : String) : (choose branchId).Atomic := by
  refine readsOnly_get.bind fun playback => ?_
  split
  · split
    · exact (readsOnly_throw _).atomic
    · exact (readsOnly_liftM _).bind fun landing =>
        ((succeeds_modify _).bind fun _ => succeeds_commit landing true).atomic
  · exact (readsOnly_throw _).atomic

/-- A jump moves the playback only once its scene has been entered. -/
theorem jump_atomic (sceneId : String) : (jump sceneId).Atomic :=
  readsOnly_get.bind fun _ => (readsOnly_liftM _).bind fun landing =>
    (succeeds_commit landing true).atomic

/-- The history is not forgotten before the start scene has been entered. -/
theorem restart_atomic : restart.Atomic :=
  readsOnly_get.bind fun _ => (readsOnly_liftM _).bind fun landing =>
    ((succeeds_modify _).bind fun _ => succeeds_commit landing true).atomic

/-- The place that a save names is looked up before anything of the save is taken over. -/
theorem load_atomic (save : Save) : (load save).Atomic := by
  refine readsOnly_get.bind fun playback => ?_
  split
  · exact (readsOnly_throw _).atomic
  · split
    · exact (readsOnly_throw _).atomic
    · exact ((succeeds_modify _).bind fun _ => (succeeds_modify _).bind fun _ =>
        (succeeds_modify _).bind fun _ => succeeds_get.bind fun _ => succeeds_pure _).atomic

end Action

/-! ## What the movements lead to -/

section
variable (playback : Playback)

/-- Going on stays at the last node and at a choice, and otherwise lands where the walk ends or in
the scene that it leads to. -/
theorem advance_eq : playback.advance =
    match playback.novel.scene? playback.cursor.sceneId with
    | none => .error (.sceneNotFound playback.cursor.sceneId)
    | some scene =>
      if scene.lastIndex ≤ playback.cursor.nodeIndex || playback.atChoice then
        .ok (playback, playback.idle)
      else
        let next := playback.cursor.nodeIndex + 1
        let walk := playback.novel.walk next playback.shown .none (scene.nodes.drop next)
        match walk.ending with
        | .halted nodeIndex =>
          .ok (playback.land ⟨⟨scene.id, nodeIndex⟩, walk.shown, walk.cues⟩ false)
        | .ranOut => .ok (playback.land ⟨⟨scene.id, scene.lastIndex⟩, walk.shown, walk.cues⟩ false)
        | .left target =>
          (playback.novel.enter target walk.shown.bgm walk.cues).map (playback.land · true) := by
  simp only [advance, Action.advance, Action.on_get_bind]
  cases playback.novel.scene? playback.cursor.sceneId with
  | none => rfl
  | some scene =>
    dsimp only
    split
    · rfl
    · generalize playback.novel.walk _ _ _ _ = walk
      cases walk.ending with
      | halted nodeIndex => rfl
      | ranOut => rfl
      | left target => exact Action.on_liftM_bind _ _ _

/-- A branch is taken by noting the choice and landing in its scene. -/
theorem choose_eq (branchId : String) : playback.choose branchId =
    match playback.currentNode? with
    | some (.choice choice) =>
      match choice.branch? branchId with
      | none => .error (.branchNotFound branchId)
      | some branch =>
        let event := .choiceMade choice.prompt branch.text playback.clock.unix
        (playback.novel.enter branch.targetSceneId playback.shown.bgm .none).map
          ({ playback with history := playback.history.push event }.land · true)
    | other =>
      .error (.stateMismatch "choice" ((other.map fun node => Worded.word node.kind).getD "end"))
    := by
  simp only [choose, Action.choose, Action.on_get_bind]
  cases playback.currentNode? with
  | none => rfl
  | some node =>
    cases node with
    | choice choice =>
      dsimp only
      cases choice.branch? branchId with
      | none => rfl
      | some branch => exact Action.on_liftM_bind _ _ _
    | _ => rfl

/-- A jump lands in its scene. -/
theorem jump_eq (sceneId : String) : playback.jump sceneId =
    (playback.novel.enter sceneId playback.shown.bgm .none).map (playback.land · true) := by
  simp only [jump, Action.jump, Action.on_get_bind]
  exact Action.on_liftM_bind _ _ _

/-- A restart lands in the start scene with an empty history, after the music was stopped. -/
theorem restart_eq : playback.restart =
    let cues := if playback.shown.bgm.isSome then .command .stopBgm else .none
    (playback.novel.enter playback.novel.startSceneId none cues).map
      ({ playback with history := playback.history.clear }.land · true) := by
  simp only [restart, Action.restart, Action.on_get_bind]
  exact Action.on_liftM_bind _ _ _

/-- A load puts the place, the stage and the music of the save in the place of what was there. -/
theorem load_eq (save : Save) : playback.load save =
    match playback.novel.scene? save.sceneId with
    | none => .error (.sceneNotFound save.sceneId)
    | some scene =>
      if scene.nodes.length ≤ save.nodeIndex then
        .error (.invalidSavePosition save.sceneId save.nodeIndex)
      else
        let moved :=
          { playback with cursor := save.cursor, shown := { stage := save.stage, bgm := save.bgm } }
        .ok (moved, ⟨.command (musicCommand save.bgm), moved.waiting, true⟩) := by
  simp only [load, Action.load, Action.on_get_bind]
  cases playback.novel.scene? save.sceneId with
  | none => rfl
  | some scene =>
    dsimp only
    split <;> rfl

end
end Playback
end VisualNovel
