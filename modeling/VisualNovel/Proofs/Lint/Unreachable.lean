import VisualNovel.Proofs.Lint.Soundness
import VisualNovel.Proofs.Lint.Wording

/-!
# What cannot be reached is not played

Analysis searches the scenes breadth first over the targets of their jumps and branches. The search
finds the scenes to which such links lead from the start, and no others (`Novel.mem_reachable_iff`),
and analysis reports just the scenes of the novel that it has not found
(`Novel.reportsUnreachable_iff`). Play moves from scene to scene by jumps at their nodes and by
branches that are taken, and each such step is a link. So a story that unfolds without jumps on
request never comes to a scene that is reported, not even in passing
(`Playback.unreachable_unplayed`).
-/

namespace VisualNovel

namespace Novel

/-! ## The search -/

/-- A jump or a branch of the one scene has the other one as its target. -/
def SceneLink (novel : Novel) (source target : String) : Prop :=
  target ∈ novel.targetsOf source

/-- Links lead from the one scene to the other. -/
def Connects (novel : Novel) : String → String → Prop :=
  Relation.ReflTransGen novel.SceneLink

section
variable {novel : Novel} {reached queue : List String} {id target start : String} {scene : Scene}
  {node : Node}

theorem mem_newTargets : target ∈ novel.newTargets reached id
    ↔ novel.SceneLink id target ∧ target ∉ reached := by
  simp [newTargets, SceneLink]

/-- What a node of a scene leads to is linked with that scene. -/
theorem sceneLink_of_mem (hscene : novel.scene? id = some scene) (hnode : node ∈ scene.nodes)
    (htarget : target ∈ node.targets) : novel.SceneLink id target := by
  simp only [SceneLink, targetsOf, hscene, Option.map_some, Option.getD_some]
  exact List.mem_flatMap.2 ⟨node, hnode, htarget⟩

/-- A search forgets nothing that has been reached. -/
theorem mem_explore_of_mem (h : id ∈ reached) : id ∈ novel.explore reached queue := by
  induction reached, queue using explore.induct novel with
  | case1 reached =>
    rw [explore]
    exact h
  | case2 reached source queue ih =>
    rw [explore]
    exact ih (List.mem_append_left _ h)

/-- A search reaches nothing but what links lead to from the scenes in its queue. -/
theorem of_mem_explore {found : String → Prop}
    (hlink : ∀ {source target}, found source → novel.SceneLink source target → found target)
    (hreached : ∀ id ∈ reached, found id) (hqueue : ∀ id ∈ queue, found id) :
    ∀ id ∈ novel.explore reached queue, found id := by
  induction reached, queue using explore.induct novel with
  | case1 reached =>
    rw [explore]
    exact hreached
  | case2 reached source queue ih =>
    rw [explore]
    have hnew : ∀ id ∈ novel.newTargets reached source, found id := fun id hid =>
      hlink (hqueue source List.mem_cons_self) (mem_newTargets.1 hid).1
    refine ih (List.forall_mem_append.2 ⟨hreached, hnew⟩) (List.forall_mem_append.2 ⟨?_, hnew⟩)
    exact fun id hid => hqueue id (List.mem_cons_of_mem source hid)

/-- What a search has reached leads to nothing else, if that holds at the outset of all that is not
in the queue. -/
theorem explore_closed
    (h : ∀ id ∈ reached, id ∈ queue ∨ ∀ target, novel.SceneLink id target → target ∈ reached) :
    ∀ id ∈ novel.explore reached queue, ∀ target, novel.SceneLink id target →
      target ∈ novel.explore reached queue := by
  induction reached, queue using explore.induct novel with
  | case1 reached =>
    rw [explore]
    exact fun id hid => (h id hid).resolve_left List.not_mem_nil
  | case2 reached source queue ih =>
    rw [explore]
    refine ih fun id hid => ?_
    rcases List.mem_append.1 hid with hold | hnew
    · rcases h id hold with hqueued | hclosed
      · rcases List.mem_cons.1 hqueued with rfl | hlater
        · -- the targets of the scene whose turn it is have now been reached
          refine .inr fun target htarget => List.mem_append.2 ?_
          by_cases hmem : target ∈ reached
          · exact .inl hmem
          · exact .inr (mem_newTargets.2 ⟨htarget, hmem⟩)
        · exact .inl (List.mem_append_left _ hlater)
      · exact .inr fun target htarget => List.mem_append_left _ (hclosed target htarget)
    · exact .inl (List.mem_append_right _ hnew)

/-- The search from a scene finds what links lead to. -/
theorem mem_reachable_iff : id ∈ novel.reachable start ↔ novel.Connects start id := by
  constructor
  · have hstart : ∀ id ∈ [start], novel.Connects start id :=
      List.forall_mem_singleton.2 .refl
    exact of_mem_explore (fun h hlink => h.tail hlink) hstart hstart id
  · intro h
    induction h with
    | refl => exact mem_explore_of_mem (List.mem_singleton_self start)
    | tail _ hlink ih => exact explore_closed (fun _ hid => .inl hid) _ ih _ hlink

end

/-! ## The report -/

/-- The message about a scene that cannot be reached. -/
def unreachableMessage : String := "场景无法从起始场景到达"

/-- The diagnostic about a scene that cannot be reached. -/
def unreachableDiagnostic (sceneId : String) : Diagnostic :=
  { severity := .info, location := sceneId, message := unreachableMessage }

/-- Analysis reports that the scene cannot be reached. -/
def ReportsUnreachable (novel : Novel) (sceneId : String) : Prop :=
  ∃ diagnostic ∈ novel.analyze,
    diagnostic.location = sceneId ∧ diagnostic.message = unreachableMessage

/-- The message does not begin like this text. -/
def Strays (text : String) : Prop :=
  ¬text.toList <+: unreachableMessage.toList

instance (text : String) : Decidable (Strays text) :=
  inferInstanceAs (Decidable ¬text.toList <+: unreachableMessage.toList)

/-- A text that strays from the message does so whatever comes behind it. -/
theorem Strays.append {text : String} (h : Strays text) (rest : String) :
    Strays (text ++ rest) := by
  intro hbegins
  rw [String.toList_append] at hbegins
  exact h ((List.prefix_append _ _).trans hbegins)

/-- No diagnostic of the report is about a scene that cannot be reached. -/
def IsOther (report : Report) : Prop :=
  ∀ diagnostic ∈ report, Strays diagnostic.message

section
variable {novel : Novel} {start id : String}

/-- What is about the start, a scene or a node by itself strays from the message. -/
theorem isOther_of_isLocal {report : Report} (h : report.IsLocal) : IsOther report := by
  have hopenings : ∀ opening ∈ Diagnostic.openings, Strays opening := by decide
  intro diagnostic hdiagnostic hbegins
  obtain ⟨opening, hopening, hopens⟩ := h diagnostic hdiagnostic
  exact hopenings opening hopening (hopens.trans hbegins)

theorem isOther_cycleDiagnostic (cycles : List (List String)) :
    IsOther (cycles.map cycleDiagnostic) :=
  List.forall_mem_map.2 fun _ _ => .append (by decide) _

/-- Scenes are reported as far as no links lead to them. -/
theorem mem_unreachableReport {first : Scene} {diagnostic : Diagnostic}
    (hstart : novel.scene? start = some first) :
    diagnostic ∈ novel.unreachableReport start
      ↔ ∃ scene ∈ novel.scenes, ¬novel.Connects start scene.id ∧
        diagnostic = unreachableDiagnostic scene.id := by
  have hfar (scene : Scene) : (!(novel.reachable start).contains scene.id) = true
      ↔ ¬novel.Connects start scene.id := by
    rw [Bool.not_eq_true', ← Bool.not_eq_true, List.contains_iff_mem, mem_reachable_iff]
  simp only [unreachableReport, hstart, Option.isNone_some, Bool.false_eq_true, if_false,
    List.mem_map, List.mem_filter, hfar, and_assoc, unreachableDiagnostic, unreachableMessage,
    eq_comm]

/-- Where the novel names a scene as its start, the scenes of the novel that are reported are those
to which no links lead from there. -/
theorem reportsUnreachable_iff {first : Scene} (hnamed : novel.startSceneId ≠ "")
    (hstart : novel.scene? novel.startSceneId = some first) :
    novel.ReportsUnreachable id
      ↔ id ∈ novel.sceneIds ∧ ¬novel.Connects novel.startSceneId id := by
  have heffective : novel.effectiveStart? = some novel.startSceneId := by
    cases hscenes : novel.scenes with
    | nil =>
      have hmem := mem_of_scene? hstart
      rw [hscenes] at hmem
      cases hmem
    | cons head tail => rw [effectiveStart?_of_cons hscenes, if_neg hnamed]
  constructor
  · rintro ⟨diagnostic, hmem, rfl, hmessage⟩
    have hnot : ¬Strays diagnostic.message := by
      rw [hmessage]
      decide
    simp only [analyze_eq heffective, List.mem_append] at hmem
    obtain ((hmem | hmem) | hmem) := hmem
    · exact absurd (isOther_of_isLocal novel.isLocal_localReport _ hmem) hnot
    · exact absurd (isOther_cycleDiagnostic novel.entryCycles _ hmem) hnot
    · obtain ⟨scene, hscene, hfar, rfl⟩ := (mem_unreachableReport hstart).1 hmem
      exact ⟨List.mem_map_of_mem hscene, hfar⟩
  · rintro ⟨hid, hfar⟩
    obtain ⟨scene, hscene, rfl⟩ := List.mem_map.1 hid
    refine ⟨unreachableDiagnostic scene.id, ?_, rfl, rfl⟩
    rw [analyze_eq heffective]
    exact List.mem_append_right _ ((mem_unreachableReport hstart).2 ⟨scene, hscene, hfar, rfl⟩)

end
end Novel

/-! ## The way of a reader -/

/-- The reader goes on to be the other one, over any number of nodes and scenes. -/
def Reader.ComesTo (novel : Novel) : Reader → Reader → Prop :=
  Relation.ReflTransGen fun reader next => ∃ new, reader.step novel = .goes next new

section
variable {novel : Novel} {reader next later : Reader} {new cues : Cues} {landing : Landing}
  {n : Nat}

/-- A reader leaves a scene over a link only. -/
theorem Reader.connects_of_goes (hstep : reader.step novel = .goes next new) :
    novel.Connects reader.sceneId next.sceneId := by
  obtain ⟨scene, node, hscene, hnode, ⟨jump, rfl, rfl, -⟩ | ⟨-, -, rfl⟩⟩ := step_goes hstep
  · exact .single (Novel.sceneLink_of_mem hscene (List.mem_of_getElem? hnode)
      (List.mem_singleton_self jump.targetSceneId))
  · exact .refl

/-- Links lead to every scene that a reader comes to. -/
theorem Reader.ComesTo.connects (h : reader.ComesTo novel later) :
    novel.Connects reader.sceneId later.sceneId := by
  induction h with
  | refl => exact .refl
  | tail _ hstep ih =>
    obtain ⟨new, hstep⟩ := hstep
    exact ih.trans (connects_of_goes hstep)

/-- A reader halts in a scene that it has come to. -/
theorem Reader.exists_comesTo_of_run (hrun : reader.run novel n cues = some (.ok landing)) :
    ∃ last, reader.ComesTo novel last ∧ landing.cursor.sceneId = last.sceneId := by
  obtain ⟨last, sofar, final, hlast, hhalts, rfl⟩ :=
    run_invariant (fun other _ => reader.ComesTo novel other)
      (fun _ _ _ new h hstep => h.tail ⟨new, hstep⟩) .refl hrun
  obtain ⟨scene, -, ⟨node, -, -, rfl⟩ | ⟨-, -, rfl⟩⟩ := step_halts hhalts
  · exact ⟨last, hlast, rfl⟩
  · exact ⟨last, hlast, rfl⟩

end

/-! ## Play without jumps on request -/

namespace Playback

/-- The states of play to which the story leads by itself: from its start, with no jumps on request
and no saves but those that were taken on such a way. -/
inductive Unfolds (novel : Novel) : Playback → Prop
  | start {clock : Instant} {moved : Playback × Step}
      (h : Playback.start novel clock = .ok moved) : Unfolds novel moved.1
  | resume {clock : Instant} {other : Playback} {moved : Playback × Step}
      (hother : Unfolds novel other) (h : Playback.resume novel clock other.save = .ok moved) :
      Unfolds novel moved.1
  /-- Any call but a load and a jump on request. -/
  | call {playback : Playback} (h : Unfolds novel playback) (call : Call)
      (hload : ∀ save, call ≠ .load save) (hjump : ∀ sceneId, call ≠ .jump sceneId) :
      Unfolds novel (playback.after call)
  | load {playback other : Playback} (h : Unfolds novel playback)
      (hother : Unfolds novel other) : Unfolds novel (playback.after (.load other.save))
  /-- Time passes. -/
  | wait {playback : Playback} (h : Unfolds novel playback) (clock : Instant) :
      Unfolds novel { playback with clock }

variable {playback : Playback} {call : Call} {reader : Reader} {cues : Cues}
  {moved : Playback × Step} {novel : Novel}

/-- Unless it is a jump on request, a call departs from a scene to which links lead. -/
theorem Departs.connects (hnovel : playback.novel = novel)
    (h : novel.Connects novel.startSceneId playback.cursor.sceneId)
    (hjump : ∀ sceneId, call ≠ .jump sceneId) (hdep : playback.Departs call reader cues) :
    novel.Connects novel.startSceneId reader.sceneId := by
  subst hnovel
  cases hdep with
  | advance => exact h
  | restart => exact .refl
  | jump sceneId => exact absurd rfl (hjump sceneId)
  | @choose choice branch _ hnode hbranch =>
    obtain ⟨scene, hscene, hchoice⟩ := Option.bind_eq_some_iff.1 hnode
    have htarget : branch.targetSceneId ∈ (Node.choice choice).targets :=
      List.mem_map_of_mem (List.mem_of_find?_eq_some hbranch)
    exact h.tail (Novel.sceneLink_of_mem hscene (List.mem_of_getElem? hchoice) htarget)

/-- Such a call leads to a scene to which links lead, and a load to that of its save. -/
theorem Moves.connects (hnovel : playback.novel = novel)
    (h : novel.Connects novel.startSceneId playback.cursor.sceneId)
    (hjump : ∀ sceneId, call ≠ .jump sceneId)
    (hload : ∀ save, call = .load save → novel.Connects novel.startSceneId save.sceneId)
    (hmoves : playback.Moves call moved) :
    novel.Connects novel.startSceneId moved.1.cursor.sceneId := by
  cases hmoves with
  | stays => exact h
  | loads => exact hload _ rfl
  | lands hdep hrun =>
    have hsets := Departs.connects hnovel h hjump hdep
    rw [hnovel] at hrun
    obtain ⟨last, hlast, hscene⟩ := Reader.exists_comesTo_of_run hrun
    have hlanded := hsets.trans hlast.connects
    rw [← hscene] at hlanded
    exact hlanded

/-- Links lead from the start to every scene where play is. -/
theorem Unfolds.connects (h : playback.Unfolds novel) :
    playback.novel = novel ∧ novel.Connects novel.startSceneId playback.cursor.sceneId := by
  induction h with
  | start h =>
    obtain ⟨hnovel, n, hrun⟩ := run_of_start h
    obtain ⟨last, hlast, hscene⟩ := Reader.exists_comesTo_of_run hrun
    have hlanded := hlast.connects
    rw [← hscene] at hlanded
    exact ⟨hnovel, hlanded⟩
  | resume _ h ih =>
    cases moves_of_resume h with
    | lands hdep => cases hdep
    | loads => exact ⟨rfl, ih.2⟩
  | @call playback _ call hload hjump ih =>
    rcases playback.after_cases call with ⟨moved, hmoves, heq⟩ | heq <;> rw [heq]
    · refine ⟨hmoves.novel_eq.trans ih.1, hmoves.connects ih.1 ih.2 hjump ?_⟩
      exact fun save hsave => absurd hsave (hload save)
    · exact ih
  | @load playback other _ _ ih ihother =>
    have hjump : ∀ sceneId, Call.load other.save ≠ .jump sceneId := nofun
    rcases playback.after_cases (.load other.save) with ⟨moved, hmoves, heq⟩ | heq <;> rw [heq]
    · refine ⟨hmoves.novel_eq.trans ih.1, hmoves.connects ih.1 ih.2 hjump ?_⟩
      intro save hsave
      cases hsave
      exact ihother.2
    · exact ih
  | wait _ _ ih => exact ih

/-- In a novel that names a scene as its start, analysis reports as unreachable just the scenes to
which no links lead from there. As long as nobody jumps on request, play is never in one of them,
and neither the start nor any call comes to one on its way, be it that it fails there. -/
theorem unreachable_unplayed {first : Scene} (hnamed : novel.startSceneId ≠ "")
    (hstart : novel.scene? novel.startSceneId = some first) :
    (∀ id, novel.ReportsUnreachable id
      ↔ id ∈ novel.sceneIds ∧ ¬novel.Connects novel.startSceneId id) ∧
    (∀ later, (Reader.before novel.startSceneId none).ComesTo novel later →
      ¬novel.ReportsUnreachable later.sceneId) ∧
    ∀ playback : Playback, playback.Unfolds novel →
      ¬novel.ReportsUnreachable playback.cursor.sceneId ∧
      ∀ call reader cues, (∀ sceneId, call ≠ .jump sceneId) →
        playback.Departs call reader cues → ∀ later, reader.ComesTo novel later →
          ¬novel.ReportsUnreachable later.sceneId := by
  have hreports (id : String) : novel.ReportsUnreachable id
      ↔ id ∈ novel.sceneIds ∧ ¬novel.Connects novel.startSceneId id :=
    Novel.reportsUnreachable_iff hnamed hstart
  have hplayed (id : String) (h : novel.Connects novel.startSceneId id) :
      ¬novel.ReportsUnreachable id :=
    fun hreported => ((hreports id).1 hreported).2 h
  refine ⟨hreports, fun later hlater => hplayed _ hlater.connects, fun playback h => ?_⟩
  obtain ⟨hnovel, hcursor⟩ := h.connects
  refine ⟨hplayed _ hcursor, fun call reader cues hjump hdep later hlater => ?_⟩
  exact hplayed _ ((Departs.connects hnovel hcursor hjump hdep).trans hlater.connects)

end Playback

/-- From the hall one goes through the door to the yard. Only from the loft there is a way back. -/
def Novel.house : Novel :=
  { id := "house", title := "House", author := "", description := "", coverImageUrl := none
    characters := [], backgrounds := [], audio := []
    chapters := [⟨"one", "One", [⟨"hall", "Hall", [.jump ⟨"h1", "door"⟩]⟩,
      ⟨"door", "Door", [.jump ⟨"d1", "yard"⟩]⟩, ⟨"yard", "Yard", [.narration ⟨"y1", "Sun."⟩]⟩,
      ⟨"loft", "Loft", [.narration ⟨"l1", "Dust."⟩, .jump ⟨"l2", "hall"⟩]⟩]⟩]
    startSceneId := "hall", createdAt := none, updatedAt := none }

/-- The loft of the house is reported as unreachable. The start of the story passes through the hall
and ends in the yard, which are not. -/
theorem Playback.unreachable_unplayed_house :
    Novel.house.startSceneId ≠ "" ∧
    Novel.house.scene? "hall" = some ⟨"hall", "Hall", [.jump ⟨"h1", "door"⟩]⟩ ∧
    Novel.house.ReportsUnreachable "loft" ∧ ¬Novel.house.ReportsUnreachable "hall" ∧
    ∃ moved, start .house (.ofUnix 0) = .ok moved ∧ moved.1.Unfolds .house ∧
      moved.1.cursor.sceneId = "yard" ∧ ¬Novel.house.ReportsUnreachable "yard" := by
  have hnamed : Novel.house.startSceneId ≠ "" := by decide
  have hscene : Novel.house.scene? "hall" = some ⟨"hall", "Hall", [.jump ⟨"h1", "door"⟩]⟩ := by
    cbv
  have hstart : start .house (.ofUnix 0)
      = .ok ((blank .house (.ofUnix 0)).land ⟨⟨"yard", 0⟩, {}, .none⟩ true) := by
    cbv
  have hanalyze : Novel.house.analyze = [Novel.unreachableDiagnostic "loft"] := by
    cbv
  have hloft : Novel.house.ReportsUnreachable "loft" :=
    ⟨_, hanalyze ▸ List.mem_singleton_self _, rfl, rfl⟩
  obtain ⟨-, hpassed, hplayed⟩ := unreachable_unplayed hnamed hscene
  exact ⟨hnamed, hscene, hloft, hpassed _ .refl, _, hstart, .start hstart, rfl,
    (hplayed _ (.start hstart)).1⟩

end VisualNovel
