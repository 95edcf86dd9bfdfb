import VisualNovel.Proofs.Lint.Unreachable

/-!
# The scenes that can be reached

A scene has ways to the targets of its jumps and of the branches of its choices (`Novel.HasWay`). The
search of analysis comes to each id once (`Novel.nodup_reachable`), looks at one after the other
(`Novel.exploreWithin_eq`), and so comes to those to which ways lead from the start. The scenes that
are reported as unreachable are the others, in the order of the novel
(`Novel.reachability_closure`).
-/

namespace VisualNovel

/-- Whether the diagnostic is about a scene that cannot be reached. -/
def Diagnostic.isUnreachable (diagnostic : Diagnostic) : Bool :=
  diagnostic.message == Novel.unreachableMessage

namespace Novel

/-! ## Ways -/

/-- The first scene with the one id has a jump to the other, or a choice with a branch to it. There
need not be a scene with the other id. -/
def HasWay (novel : Novel) (source target : String) : Prop :=
  ∃ scene, novel.scene? source = some scene ∧
    ((∃ link, .jump link ∈ scene.nodes ∧ link.targetSceneId = target) ∨
      ∃ menu, .choice menu ∈ scene.nodes ∧ ∃ branch ∈ menu.branches, branch.targetSceneId = target)

/-- Ways lead from the one scene to the other. -/
def IsReachable (novel : Novel) (start id : String) : Prop :=
  Relation.ReflTransGen novel.HasWay start id

section
variable {novel : Novel} {source target start id : String} {reached queue : List String}
  {limit : Nat}

theorem sceneLink_iff : novel.SceneLink source target ↔ novel.HasWay source target := by
  constructor
  · intro h
    simp only [SceneLink, targetsOf] at h
    cases hscene : novel.scene? source with
    | none => simp [hscene] at h
    | some scene =>
      simp only [hscene, Option.map_some, Option.getD_some, Scene.targets] at h
      obtain ⟨node, hnode, htarget⟩ := List.mem_flatMap.1 h
      cases node with
      | jump link => exact ⟨scene, hscene, .inl ⟨link, hnode, (List.mem_singleton.1 htarget).symm⟩⟩
      | choice menu => exact ⟨scene, hscene, .inr ⟨menu, hnode, List.mem_map.1 htarget⟩⟩
      | dialogue | narration | background | character | audio => cases htarget
  · rintro ⟨scene, hscene, ⟨link, hnode, rfl⟩ | ⟨menu, hnode, branch, hbranch, rfl⟩⟩
    · exact sceneLink_of_mem hscene hnode (List.mem_singleton_self _)
    · exact sceneLink_of_mem hscene hnode (List.mem_map_of_mem hbranch)

/-- The search finds what can be reached. -/
theorem mem_reachable_iff_isReachable : id ∈ novel.reachable start ↔ novel.IsReachable start id := by
  have hways : novel.SceneLink = novel.HasWay :=
    funext₂ fun _ _ => propext sceneLink_iff
  rw [mem_reachable_iff, Connects, hways, IsReachable]

instance (novel : Novel) (start id : String) : Decidable (novel.IsReachable start id) :=
  decidable_of_iff (id ∈ novel.reachable start) mem_reachable_iff_isReachable

/-! ## The search -/

/-- Ids are not repeated once their repetitions have been taken out. -/
theorem nodup_eraseDups : (ids : List String) → ids.eraseDups.Nodup
  | [] => List.nodup_nil
  | id :: ids => by
    rw [List.eraseDups_cons]
    refine List.nodup_cons.2 ⟨fun hmem => ?_, nodup_eraseDups _⟩
    simp [List.mem_eraseDups] at hmem
termination_by ids => ids.length
decreasing_by exact Nat.lt_succ_of_le (List.length_filter_le _ _)

theorem nodup_newTargets : (novel.newTargets reached id).Nodup :=
  (nodup_eraseDups _).filter _

/-- A search comes to no id twice. -/
theorem nodup_explore (h : reached.Nodup) : (novel.explore reached queue).Nodup := by
  induction reached, queue using explore.induct novel with
  | case1 reached =>
    rw [explore]
    exact h
  | case2 reached source queue ih =>
    rw [explore]
    refine ih (List.nodup_append.2 ⟨h, nodup_newTargets, fun old hold new hnew heq => ?_⟩)
    exact (mem_newTargets.1 hnew).2 (heq ▸ hold)

theorem nodup_reachable : (novel.reachable start).Nodup :=
  nodup_explore (List.nodup_singleton start)

theorem length_le_explore : reached.length ≤ (novel.explore reached queue).length := by
  induction reached, queue using explore.induct novel with
  | case1 reached => rw [explore]
  | case2 reached source queue ih =>
    rw [explore]
    exact (List.sublist_append_left _ _).length_le.trans ih

/-- Searches like `explore`, but looks at no more than so many scenes; none when there are more in
the queue. -/
def exploreWithin (novel : Novel) : (limit : Nat) → (reached queue : List String) →
    Option (List String)
  | _, reached, [] => some reached
  | 0, _, _ :: _ => none
  | limit + 1, reached, id :: queue =>
    novel.exploreWithin limit (reached ++ novel.newTargets reached id)
      (queue ++ novel.newTargets reached id)

/-- A search looks at what is in the queue, and once at each id to which it comes. -/
theorem exploreWithin_eq
    (hlimit : queue.length + (novel.explore reached queue).length ≤ limit + reached.length) :
    novel.exploreWithin limit reached queue = some (novel.explore reached queue) := by
  induction reached, queue using explore.induct novel generalizing limit with
  | case1 reached => rw [explore, exploreWithin]
  | case2 reached source queue ih =>
    rw [explore] at hlimit ⊢
    have hreached := @length_le_explore novel (reached ++ novel.newTargets reached source)
      (queue ++ novel.newTargets reached source)
    simp only [List.length_append, List.length_cons] at hlimit hreached ih
    cases limit with
    | zero => omega
    | succ limit =>
      rw [exploreWithin]
      exact ih (by omega)

/-- The ids that a search from the start may come to. -/
def idsFrom (novel : Novel) (start : String) : Finset String :=
  (start :: novel.allTargets).toFinset

/-- There are no more ids to come to than the start and the targets of all scenes. -/
theorem length_reachable_le : (novel.reachable start).length ≤ (novel.idsFrom start).card := by
  rw [← List.toFinset_card_of_nodup nodup_reachable]
  refine Finset.card_le_card fun id hid => ?_
  have hreachable := mem_reachable_iff.1 (List.mem_toFinset.1 hid)
  refine List.mem_toFinset.2 ?_
  rcases hreachable.cases_tail with rfl | ⟨source, -, hlink⟩
  · exact List.mem_cons_self
  · exact List.mem_cons_of_mem _ (mem_allTargets_of_mem_targetsOf hlink)

/-- So the search ends after as many rounds as there are such ids, or fewer. -/
theorem exploreWithin_start (novel : Novel) (start : String) :
    novel.exploreWithin (novel.idsFrom start).card [start] [start]
      = some (novel.reachable start) := by
  refine exploreWithin_eq ?_
  have hle := @length_reachable_le novel start
  rw [reachable] at hle
  simp only [List.length_singleton]
  omega

/-! ## The report -/

theorem filter_isUnreachable_of_isOther {report : Report} (h : IsOther report) :
    report.filter (·.isUnreachable) = [] := by
  refine List.filter_eq_nil_iff.2 fun diagnostic hdiagnostic heq => h diagnostic hdiagnostic ?_
  rw [Diagnostic.isUnreachable, beq_iff_eq] at heq
  rw [heq]

/-- From a start that is a scene, the scenes are reported to which no ways lead. -/
theorem unreachableReport_eq (novel : Novel) (start : String) :
    novel.unreachableReport start
      = if (novel.scene? start).isSome then
          (novel.scenes.filter fun scene => ¬novel.IsReachable start scene.id).map
            fun scene => unreachableDiagnostic scene.id
        else [] := by
  have hfar (scene : Scene) : (!(novel.reachable start).contains scene.id)
      = decide ¬novel.IsReachable start scene.id := by
    rw [decide_not, ← List.elem_eq_contains, List.elem_eq_mem]
    exact congrArg _ (decide_eq_decide.2 mem_reachable_iff_isReachable)
  cases hscene : novel.scene? start with
  | none => simp [unreachableReport, hscene]
  | some first =>
    simp only [unreachableReport, hscene, Option.isNone_some, Option.isSome_some, if_true,
      Bool.false_eq_true, if_false, hfar]
    rfl

/-- From any start, the search for what can be reached goes at most as many rounds as there are
targets, the start included, and comes to each id once to which ways lead, be it that of a scene or
not. In a novel with scenes, those are reported, in their order, to which no ways lead from the named
start, or from the first scene where none is named, provided that this start is a scene. -/
theorem reachability_closure (novel : Novel) :
    (∀ start,
      novel.exploreWithin (novel.idsFrom start).card [start] [start]
        = some (novel.reachable start) ∧
      (novel.reachable start).Nodup ∧
      ∀ id, id ∈ novel.reachable start ↔ Relation.ReflTransGen novel.HasWay start id) ∧
    ∀ first others start, novel.scenes = first :: others →
      start = (if novel.startSceneId = "" then first.id else novel.startSceneId) →
      novel.analyze.filter (·.isUnreachable)
        = if (novel.scene? start).isSome then
            (novel.scenes.filter fun scene => ¬novel.IsReachable start scene.id).map
              fun scene => unreachableDiagnostic scene.id
          else [] := by
  refine ⟨fun start => ⟨novel.exploreWithin_start start, nodup_reachable,
    fun id => mem_reachable_iff_isReachable⟩, ?_⟩
  rintro first others start hscenes rfl
  rw [analyze_eq (effectiveStart?_of_cons hscenes), List.filter_append, List.filter_append,
    filter_isUnreachable_of_isOther (isOther_of_isLocal novel.isLocal_localReport),
    filter_isUnreachable_of_isOther (isOther_cycleDiagnostic _), List.nil_append, List.nil_append,
    ← unreachableReport_eq]
  refine List.filter_eq_self.2 fun diagnostic hdiagnostic => ?_
  exact beq_iff_eq.2 (message_of_mem_unreachableReport hdiagnostic)

/-- In the house, ways lead from the hall over the door to the yard. The loft is reported. -/
theorem reachability_closure_house :
    Novel.house.IsReachable "hall" "yard" ∧ ¬Novel.house.IsReachable "hall" "loft" ∧
    Novel.house.analyze.filter (·.isUnreachable) = [unreachableDiagnostic "loft"] := by
  have hreachable : Novel.house.reachable "hall" = ["hall", "door", "yard"] := by cbv
  obtain ⟨hsearch, hreport⟩ := reachability_closure .house
  obtain ⟨-, -, hmem⟩ := hsearch "hall"
  rw [hreachable] at hmem
  refine ⟨(hmem "yard").1 (by decide), fun h => absurd ((hmem "loft").2 h) (by decide), ?_⟩
  rw [hreport _ _ "hall" rfl (by decide)]
  cbv

end
end Novel
end VisualNovel
