import VisualNovel.Proofs.Lint.Soundness
import VisualNovel.Proofs.Lint.Wording
import VisualNovel.Proofs.Playback.EntryPath

/-!
# Cycles of entry jumps

Entry jumps lead from each scene to one other at most, so that cycles of them have no scene in common
(`Novel.IsEntryCycle.eq_of_mem`), and a path of entry jumps that never ends runs into a single one
(`Novel.EntryPath.exists_cycle`). Analysis follows the path from every scene and meets the same cycle
many times, each time beginning with another scene. It keeps what it meets first, and no cycle that
goes through the same scenes. So it reports every cycle once, and those are the cycles in which an
entry is caught (`Novel.entryCycles_exact`).
-/

namespace VisualNovel
namespace Novel

/-! ## Cycles and paths -/

/-- Each of the scenes leads on to the next, and the last one to the first. A link to a scene that
does not exist is on no cycle, as nothing leads on from there. -/
structure IsEntryCycle (novel : Novel) (cycle : Cycle String) : Prop where
  ne_nil : cycle ≠ Cycle.nil
  nodup : cycle.Nodup
  links : cycle.Chain novel.EntryLink

section
variable {novel : Novel} {cycle cycle' : Cycle String} {id first last target : String}
  {rest visited passed more : List String}

theorem isEntryCycle_cons : novel.IsEntryCycle (first :: rest : List String)
    ↔ (first :: rest).Nodup ∧ (first :: rest ++ [first]).IsChain novel.EntryLink := by
  constructor
  · exact fun h => ⟨h.nodup, (Cycle.chain_coe_cons _ _ _).1 h.links⟩
  · exact fun ⟨hnodup, hlinks⟩ =>
      ⟨by simp [← Cycle.coe_nil], hnodup, (Cycle.chain_coe_cons _ _ _).2 hlinks⟩

/-- A cycle may be read from any of its scenes on. -/
theorem exists_coe_cons_of_mem (h : id ∈ cycle) :
    ∃ rest, ((id :: rest : List String) : Cycle String) = cycle := by
  induction cycle using Quotient.inductionOn' with
  | h ids =>
    obtain ⟨before, after, rfl⟩ := List.append_of_mem h
    exact ⟨after ++ before, Cycle.coe_eq_coe.2 (List.isRotated_append (l := id :: after))⟩

/-- Links that come back to a scene that has been visited on the way make a path. -/
theorem EntryPath.of_isChain (hnodup : (visited ++ more).Nodup)
    (hlinks : (more ++ [last]).IsChain novel.EntryLink) (hfirst : (more ++ [last]).head? = some id)
    (hlast : last ∈ visited ++ more) : novel.EntryPath visited id (visited ++ more) last := by
  induction more generalizing visited id with
  | nil =>
    cases hfirst
    rw [List.append_nil] at hlast ⊢
    exact .returns hlast
  | cons source more ih =>
    cases hfirst
    have hnew : source ∉ visited := fun hold =>
      (List.nodup_append.1 hnodup).2.2 source hold source List.mem_cons_self rfl
    obtain ⟨target, htarget⟩ : ∃ target, (more ++ [last]).head? = some target := by
      cases more with
      | nil => exact ⟨last, rfl⟩
      | cons next more => exact ⟨next, rfl⟩
    rw [List.append_cons] at hnodup hlast ⊢
    refine .leads hnew (hlinks.rel_head? htarget) (ih hnodup ?_ htarget hlast)
    exact List.isChain_of_isChain_cons hlinks

/-- The path from a scene of a cycle goes round once. -/
theorem IsEntryCycle.path (h : novel.IsEntryCycle (first :: rest : List String)) :
    novel.EntryPath [] first (first :: rest) first := by
  obtain ⟨hnodup, hlinks⟩ := isEntryCycle_cons.1 h
  have hpath : novel.EntryPath [] first ([] ++ first :: rest) first :=
    .of_isChain hnodup hlinks rfl List.mem_cons_self
  exact hpath

/-- Two cycles with a scene in common are the same. -/
theorem IsEntryCycle.eq_of_mem (h : novel.IsEntryCycle cycle) (h' : novel.IsEntryCycle cycle')
    (hid : id ∈ cycle) (hid' : id ∈ cycle') : cycle = cycle' := by
  obtain ⟨rest, rfl⟩ := exists_coe_cons_of_mem hid
  obtain ⟨rest', rfl⟩ := exists_coe_cons_of_mem hid'
  rw [(h.path.unique h'.path).1]

/-- From each scene of a cycle one is led on to one of the cycle. -/
theorem IsEntryCycle.exists_next (h : novel.IsEntryCycle cycle) (hid : id ∈ cycle) :
    ∃ target ∈ cycle, novel.EntryLink id target := by
  obtain ⟨rest, rfl⟩ := exists_coe_cons_of_mem hid
  have hlinks := (isEntryCycle_cons.1 h).2
  cases rest with
  | nil => exact ⟨id, List.mem_cons_self, hlinks.rel_head? rfl⟩
  | cons next rest =>
    exact ⟨next, List.mem_cons_of_mem _ List.mem_cons_self, hlinks.rel_head? rfl⟩

/-- Links do not lead out of a cycle. -/
theorem IsEntryCycle.mem_of_connects (h : novel.IsEntryCycle cycle) (hid : id ∈ cycle)
    (hleads : Relation.ReflTransGen novel.EntryLink id target) : target ∈ cycle := by
  induction hleads with
  | refl => exact hid
  | tail _ hlink ih =>
    obtain ⟨next, hnext, hlink'⟩ := h.exists_next ih
    exact hlink'.unique hlink ▸ hnext

/-- Links lead from the scene into the cycle. -/
def LeadsInto (novel : Novel) (id : String) (cycle : Cycle String) : Prop :=
  ∃ member ∈ cycle, Relation.ReflTransGen novel.EntryLink id member

/-- Where links lead into a cycle, there is one that leads further towards it or around it, and no
other one. -/
theorem LeadsInto.exists_next (hcycle : novel.IsEntryCycle cycle) (h : novel.LeadsInto id cycle) :
    ∃ target, novel.EntryLink id target ∧ novel.LeadsInto target cycle := by
  obtain ⟨member, hmember, hleads⟩ := h
  rcases hleads.cases_head with rfl | ⟨target, hlink, hleads⟩
  · obtain ⟨target, htarget, hlink⟩ := hcycle.exists_next hmember
    exact ⟨target, hlink, target, htarget, .refl⟩
  · exact ⟨target, hlink, member, hmember, hleads⟩

theorem LeadsInto.of_connects (hcycle : novel.IsEntryCycle cycle) (h : novel.LeadsInto id cycle)
    (hleads : Relation.ReflTransGen novel.EntryLink id target) : novel.LeadsInto target cycle := by
  induction hleads with
  | refl => exact h
  | tail _ hlink ih =>
    obtain ⟨next, hlink', hnext⟩ := ih.exists_next hcycle
    exact hlink'.unique hlink ▸ hnext

namespace EntryPath

/-- A path that comes back to a scene has gone round a cycle from that scene on. -/
theorem exists_cycle (h : novel.EntryPath [] id passed last) (hold : last ∈ passed) :
    ∃ before rest, passed = before ++ last :: rest ∧ last ∉ before ∧
      novel.IsEntryCycle (last :: rest : List String) := by
  obtain ⟨before, rest, rfl⟩ := List.append_of_mem hold
  have hnodup := h.nodup List.nodup_nil
  have hlinks := h.isChain (List.isChain_singleton id)
  rw [List.append_assoc] at hlinks
  refine ⟨before, rest, rfl, fun hbefore => ?_, isEntryCycle_cons.2 ⟨?_, hlinks.right_of_append⟩⟩
  · exact (List.nodup_append.1 hnodup).2.2 last hbefore last List.mem_cons_self rfl
  · exact (List.nodup_append.1 hnodup).2.1

/-- Links lead to the end of a path. -/
theorem connects (h : novel.EntryPath visited id passed last) :
    Relation.ReflTransGen novel.EntryLink id last := by
  induction h with
  | returns | stays => exact .refl
  | leads _ hlink _ ih => exact .head hlink ih

/-- A path that begins where links lead into a cycle comes back to a scene of that cycle. -/
theorem returns_of_leadsInto (hcycle : novel.IsEntryCycle cycle)
    (h : novel.EntryPath visited id passed last) (hid : novel.LeadsInto id cycle) :
    last ∈ passed := by
  induction h with
  | returns hold => exact hold
  | stays _ hstays =>
    obtain ⟨target, hlink, -⟩ := hid.exists_next hcycle
    exact absurd hlink (hstays target)
  | leads _ hlink _ ih => exact ih (hid.of_connects hcycle (.single hlink))

end EntryPath
end

/-! ## The search from one scene -/

section
variable {novel : Novel} {scene : Scene} {chain visited passed : List String}
  {id target last : String} {bgm : Option String} {cues : Cues}

/-- The search goes along a path, and finds a cycle if that comes back to a scene. -/
theorem entryCycleFrom_of_path (hjump : scene.entryJump? = some target)
    (h : novel.EntryPath chain target passed last) :
    novel.entryCycleFrom chain scene
      = if last ∈ passed then some (passed.dropWhile (· != last)) else none := by
  induction h generalizing scene with
  | returns hold => rw [entryCycleFrom_of_mem hjump hold, if_pos hold]
  | @stays chain target hnew hstays =>
    rw [if_neg hnew]
    cases hscene : novel.scene? target with
    | none => exact entryCycleFrom_of_missing hjump hnew hscene
    | some next =>
      have hnone : next.entryJump? = none := entryJump?_of_stays hscene hstays
      rw [entryCycleFrom_of_scene hjump hnew hscene, entryCycleFrom_of_stays hnone]
  | leads hnew hlink _ ih =>
    obtain ⟨next, hnext, hjump'⟩ := hlink
    rw [entryCycleFrom_of_scene hjump hnew hnext]
    exact ih hjump'

/-- So it does from the first scene on. -/
theorem entryCycleFrom_eq (hscene : novel.scene? id = some scene)
    (h : novel.EntryPath [] id passed last) :
    novel.entryCycleFrom [id] scene
      = if last ∈ passed then some (passed.dropWhile (· != last)) else none := by
  cases h with
  | returns hold => cases hold
  | stays _ hstays =>
    have hnone : scene.entryJump? = none := entryJump?_of_stays hscene hstays
    rw [entryCycleFrom_of_stays hnone, if_neg List.not_mem_nil]
  | leads _ hlink hpath =>
    obtain ⟨scene', hscene', hjump⟩ := hlink
    cases hscene.symm.trans hscene'
    exact entryCycleFrom_of_path hjump hpath

/-- What the search finds is a cycle. -/
theorem exists_cycle_of_entryCycleFrom {cycle : List String}
    (hscene : novel.scene? id = some scene) (h : novel.entryCycleFrom [id] scene = some cycle) :
    ∃ first rest, cycle = first :: rest ∧ novel.IsEntryCycle cycle := by
  obtain ⟨passed, last, hpath⟩ := novel.exists_entryPath [] id
  rw [entryCycleFrom_eq hscene hpath] at h
  split at h
  · next hold =>
    cases h
    obtain ⟨before, rest, rfl, hbefore, hcycle⟩ := hpath.exists_cycle hold
    have hdrop : (before ++ last :: rest).dropWhile (· != last) = last :: rest := by
      rw [List.dropWhile_append_of_pos, List.dropWhile_cons_of_neg]
      · simp
      · exact fun source hsource => bne_iff_ne.2 fun heq => hbefore (heq ▸ hsource)
    rw [hdrop]
    exact ⟨last, rest, rfl, hcycle⟩
  · cases h

/-- From a scene of a cycle, the search finds the cycle. -/
theorem IsEntryCycle.exists_entryCycleFrom {first : String} {rest : List String}
    (h : novel.IsEntryCycle (first :: rest : List String)) :
    ∃ scene, novel.scene? first = some scene ∧
      novel.entryCycleFrom [first] scene = some (first :: rest) := by
  obtain ⟨_, -, scene, hscene, -⟩ := h.exists_next List.mem_cons_self
  refine ⟨scene, hscene, ?_⟩
  rw [entryCycleFrom_eq hscene h.path, if_pos List.mem_cons_self]
  simp

end

/-! ## Every cycle once -/

section
variable {cycles known : List (List String)} {cycle : List String}

theorem addCycle_eq_or (known : List (List String)) (cycle : List String) :
    (∃ old ∈ known, old.Perm cycle) ∧ addCycle known cycle = known ∨
      (∀ old ∈ known, ¬old.Perm cycle) ∧ addCycle known cycle = known ++ [cycle] := by
  by_cases hknown : known.any (·.isPerm cycle) = true
  · refine .inl ⟨?_, if_pos hknown⟩
    simpa [List.isPerm_iff] using hknown
  · refine .inr ⟨?_, if_neg hknown⟩
    simpa [List.isPerm_iff] using hknown

/-- What is kept was known or is added. -/
theorem mem_of_mem_addCycle (h : cycle ∈ cycles.foldl addCycle known) :
    cycle ∈ known ∨ cycle ∈ cycles := by
  induction cycles generalizing known with
  | nil => exact .inl h
  | cons added cycles ih =>
    rcases ih h with hold | hlater
    · rcases addCycle_eq_or known added with ⟨-, heq⟩ | ⟨-, heq⟩ <;> rw [heq] at hold
      · exact .inl hold
      · rcases List.mem_append.1 hold with hold | hnew
        · exact .inl hold
        · exact .inr (List.mem_cons.2 (.inl (List.mem_singleton.1 hnew)))
    · exact .inr (List.mem_cons_of_mem _ hlater)

/-- What is added goes through the same scenes as something that is kept, and so does what was
known. -/
theorem exists_perm_of_mem (h : cycle ∈ known ∨ cycle ∈ cycles) :
    ∃ kept ∈ cycles.foldl addCycle known, kept.Perm cycle := by
  induction cycles generalizing known cycle with
  | nil => exact ⟨cycle, h.resolve_right List.not_mem_nil, .rfl⟩
  | cons added cycles ih =>
    have hadded : ∃ old ∈ addCycle known added, old.Perm added := by
      rcases addCycle_eq_or known added with ⟨hold, heq⟩ | ⟨-, heq⟩ <;> rw [heq]
      · exact hold
      · exact ⟨added, List.mem_append_right _ (List.mem_singleton_self added), .rfl⟩
    have hknown : known ⊆ addCycle known added := by
      rcases addCycle_eq_or known added with ⟨-, heq⟩ | ⟨-, heq⟩ <;> rw [heq]
      · exact List.Subset.refl known
      · exact List.subset_append_left _ _
    rcases h with hold | hnew
    · exact ih (.inl (hknown hold))
    · rcases List.mem_cons.1 hnew with rfl | hlater
      · obtain ⟨old, hold, hperm⟩ := hadded
        obtain ⟨kept, hkept, hperm'⟩ := ih (.inl hold)
        exact ⟨kept, hkept, hperm'.trans hperm⟩
      · exact ih (.inr hlater)

/-- Of what goes through the same scenes, one is kept. -/
theorem pairwise_addCycle (h : known.Pairwise (¬List.Perm · ·)) :
    (cycles.foldl addCycle known).Pairwise (¬List.Perm · ·) := by
  induction cycles generalizing known with
  | nil => exact h
  | cons added cycles ih =>
    refine ih ?_
    rcases addCycle_eq_or known added with ⟨-, heq⟩ | ⟨hnew, heq⟩ <;> rw [heq]
    · exact h
    · refine List.pairwise_append.2 ⟨h, List.pairwise_singleton _ _, fun old hold other hother => ?_⟩
      cases List.mem_singleton.1 hother
      exact hnew old hold

end

section
variable {novel : Novel} {cycle : List String}

/-- In a novel whose scenes have different ids, every scene is found by its id. -/
theorem scene?_of_mem (hids : novel.sceneIds.Nodup) {scene : Scene} (hscene : scene ∈ novel.scenes) :
    novel.scene? scene.id = some scene := by
  obtain ⟨found, hfound⟩ := exists_scene?_of_mem hscene
  rw [hfound, List.inj_on_of_nodup_map hids (mem_of_scene? hfound) hscene (id_of_scene? hfound)]

/-- No cycle is found twice. -/
theorem nodup_entryCycles (novel : Novel) :
    (novel.entryCycles.map ((↑) : List String → Cycle String)).Nodup := by
  have hpairwise : novel.entryCycles.Pairwise (¬List.Perm · ·) := pairwise_addCycle .nil
  exact List.pairwise_map.2 (hpairwise.imp fun hperm heq => hperm (Cycle.coe_eq_coe.1 heq).perm)

/-- What is found are cycles. -/
theorem isEntryCycle_of_mem (hids : novel.sceneIds.Nodup) (h : cycle ∈ novel.entryCycles) :
    ∃ first rest, cycle = first :: rest ∧ novel.IsEntryCycle cycle := by
  have hfound := (mem_of_mem_addCycle h).resolve_left List.not_mem_nil
  obtain ⟨scene, hscene, hcycle⟩ := List.mem_filterMap.1 hfound
  exact exists_cycle_of_entryCycleFrom (scene?_of_mem hids hscene) hcycle

/-- All cycles are found, and nothing else. -/
theorem mem_entryCycles_iff (hids : novel.sceneIds.Nodup) {cycle : Cycle String} :
    cycle ∈ novel.entryCycles.map ((↑) : List String → Cycle String)
      ↔ novel.IsEntryCycle cycle := by
  constructor
  · intro h
    obtain ⟨found, hfound, rfl⟩ := List.mem_map.1 h
    obtain ⟨-, -, -, hcycle⟩ := isEntryCycle_of_mem hids hfound
    exact hcycle
  · intro h
    obtain ⟨first, hfirst⟩ : ∃ first, first ∈ cycle := by
      induction cycle using Cycle.induction_on with
      | nil => exact absurd rfl h.ne_nil
      | cons first rest => exact ⟨first, List.mem_cons_self⟩
    obtain ⟨rest, rfl⟩ := exists_coe_cons_of_mem hfirst
    obtain ⟨scene, hscene, hsearch⟩ := h.exists_entryCycleFrom
    rw [← id_of_scene? hscene] at hsearch
    obtain ⟨kept, hkept, hperm⟩ : ∃ kept ∈ novel.entryCycles, kept.Perm _ :=
      exists_perm_of_mem (.inr (List.mem_filterMap.2 ⟨scene, mem_of_scene? hscene, hsearch⟩))
    -- what is kept has a scene in common with the cycle, so that it is the same
    obtain ⟨-, -, -, hcycle⟩ := isEntryCycle_of_mem hids hkept
    have hfirst : first ∈ kept := hperm.mem_iff.2 (id_of_scene? hscene ▸ List.mem_cons_self)
    exact List.mem_map.2 ⟨kept, hkept, hcycle.eq_of_mem h hfirst List.mem_cons_self⟩

end

/-! ## The report -/

end Novel

/-- How the messages about cycles begin. -/
def Diagnostic.cycleOpening : String := "入场跳转成环: "

/-- Whether the diagnostic is about a cycle of entry jumps. -/
def Diagnostic.isEntryCycle (diagnostic : Diagnostic) : Bool :=
  cycleOpening.toList.isPrefixOf diagnostic.message.toList

theorem Report.IsLocal.filter_isEntryCycle {report : Report} (h : report.IsLocal) :
    report.filter (·.isEntryCycle) = [] := by
  have hclash : ∀ opening ∈ Diagnostic.openings,
      ¬opening.toList <+: Diagnostic.cycleOpening.toList ∧
        ¬Diagnostic.cycleOpening.toList <+: opening.toList := by
    decide
  refine List.filter_eq_nil_iff.2 fun diagnostic hdiagnostic hcycle => ?_
  obtain ⟨opening, hopening, hopens⟩ := h diagnostic hdiagnostic
  rcases List.prefix_or_prefix_of_prefix hopens (List.isPrefixOf_iff_prefix.1 hcycle) with hle | hle
  · exact (hclash opening hopening).1 hle
  · exact (hclash opening hopening).2 hle

namespace Novel

/-- Analysis reports a diagnostic for each cycle that is found. -/
theorem filter_isEntryCycle_analyze (novel : Novel) :
    novel.analyze.filter (·.isEntryCycle) = novel.entryCycles.map cycleDiagnostic := by
  have hcycles : (novel.entryCycles.map cycleDiagnostic).filter (·.isEntryCycle)
      = novel.entryCycles.map cycleDiagnostic := by
    refine List.filter_eq_self.2 (List.forall_mem_map.2 fun cycle _ => ?_)
    refine List.isPrefixOf_iff_prefix.2 ?_
    simp only [cycleDiagnostic, Diagnostic.cycleOpening, String.toList_append]
    exact List.prefix_append _ _
  have hunreachable (start : String) :
      (novel.unreachableReport start).filter (·.isEntryCycle) = [] := by
    refine List.filter_eq_nil_iff.2 fun diagnostic hdiagnostic => ?_
    rw [Diagnostic.isEntryCycle, message_of_mem_unreachableReport hdiagnostic]
    decide
  cases hstart : novel.effectiveStart? with
  | none =>
    obtain ⟨hscenes, hlocal⟩ := analyze_of_noScenes hstart
    rw [hlocal.filter_isEntryCycle, entryCycles, hscenes]
    rfl
  | some start =>
    rw [analyze_eq hstart, List.filter_append, List.filter_append,
      novel.isLocal_localReport.filter_isEntryCycle, hcycles, hunreachable, List.nil_append,
      List.append_nil]

/-! ## How far the search goes -/

/-- Searches a cycle like `entryCycleFrom`, but follows at most so many entry jumps; none when they
are not enough. -/
def entryCycleWithin (novel : Novel) (limit : Nat) (chain : List String) (scene : Scene) :
    Option (Option (List String)) :=
  match scene.entryJump? with
  | none => some none
  | some target =>
    if target ∈ chain then some (some (chain.dropWhile (· != target)))
    else
      match novel.scene? target with
      | none => some none
      | some next =>
        match limit with
        | 0 => none
        | limit + 1 => novel.entryCycleWithin limit (chain ++ [target]) next

/-- Searches all cycles, following at most so many entry jumps from each scene. -/
def entryCyclesWithin (novel : Novel) (limit : Nat) : Option (List (List String)) :=
  (novel.scenes.mapM fun scene => novel.entryCycleWithin limit [scene.id] scene).map
    fun found => (found.filterMap fun cycle => cycle).foldl addCycle []

/-- A search follows no more entry jumps than there are scenes off its chain. -/
theorem entryCycleWithin_eq {novel : Novel} {limit : Nat} {chain : List String} {scene : Scene}
    (hlimit : (novel.freshIds chain).card ≤ limit) :
    novel.entryCycleWithin limit chain scene = some (novel.entryCycleFrom chain scene) := by
  induction hcard : (novel.freshIds chain).card using Nat.strongRecOn
    generalizing limit chain scene with
  | ind card ih =>
    subst hcard
    rw [entryCycleWithin]
    cases hjump : scene.entryJump? with
    | none => rw [entryCycleFrom_of_stays hjump]
    | some target =>
    dsimp only
    by_cases hold : target ∈ chain
    · rw [entryCycleFrom_of_mem hjump hold, if_pos hold]
    rw [if_neg hold]
    cases hnext : novel.scene? target with
    | none => rw [entryCycleFrom_of_missing hjump hold hnext]
    | some next =>
      have hlt : (novel.freshIds (chain ++ [target])).card < (novel.freshIds chain).card :=
        card_freshIds_lt hnext hold
      obtain ⟨limit, rfl⟩ := Nat.exists_eq_add_of_lt (hlt.trans_le hlimit)
      rw [entryCycleFrom_of_scene hjump hold hnext]
      exact ih _ hlt (Nat.le_add_right _ _) rfl

theorem entryCyclesWithin_eq (novel : Novel) :
    novel.entryCyclesWithin novel.sceneIds.toFinset.card = some novel.entryCycles := by
  have hsearch (scene : Scene) :
      novel.entryCycleWithin novel.sceneIds.toFinset.card [scene.id] scene
        = pure (novel.entryCycleFrom [scene.id] scene) :=
    entryCycleWithin_eq (Finset.card_le_card Finset.sdiff_subset)
  simp only [entryCyclesWithin, hsearch, List.mapM_pure]
  simp only [Option.pure_def, Option.map_some, List.filterMap_map, entryCycles, Function.comp_def]

/-! ## Entries that are caught in a cycle -/

section
variable {novel : Novel} {id last : String} {passed chain : List String} {bgm : Option String}
  {cues : Cues}

/-- An entry is refused as cyclic just when its path comes back to a scene. -/
theorem EntryPath.enter_cyclic_iff (h : novel.EntryPath [] id passed last) :
    novel.enter id bgm cues = .error (.cyclicEntry chain)
      ↔ last ∈ passed ∧ chain = passed ++ [last] := by
  have hends : novel.EntryEnds passed last (novel.enter id bgm cues) :=
    h.ends_enterAfter List.nodup_nil
  constructor
  · intro henter
    rw [henter] at hends
    cases hends with
    | returns honce => exact ⟨List.one_le_count_iff.1 honce.ge, rfl⟩
  · rintro ⟨hold, rfl⟩
    generalize novel.enter id bgm cues = result at hends
    cases hends with
    | returns => rfl
    | missing hnew | empty hnew | lands hnew => exact absurd hold hnew

end
end Novel

theorem Playback.jump_eq_error_iff {playback : Playback} {id : String} {e : PlaybackError} :
    playback.jump id = .error e
      ↔ playback.novel.enter id playback.shown.bgm .none = .error e := by
  simp only [jump_eq]
  cases playback.novel.enter id playback.shown.bgm .none with
  | error found => simp [Except.map]
  | ok landing => simp [Except.map]

namespace Novel

/-- The search for cycles of entry jumps follows as many jumps from each scene as the novel has ids
of scenes, or fewer. In a novel whose scenes have different ids, analysis has a diagnostic for every
cycle, one for each, and none else: it is at a scene of the cycle and tells its scenes in the order
of the links, from that one back to it. Whatever the state of play, a jump to a scene is refused as
cyclic just when links lead from there into one of those cycles, and then the part of its path that
is repeated goes round that cycle. -/
theorem entryCycles_exact (novel : Novel) :
    novel.entryCyclesWithin novel.sceneIds.toFinset.card = some novel.entryCycles ∧
    (novel.sceneIds.Nodup →
      novel.analyze.filter (·.isEntryCycle) = novel.entryCycles.map cycleDiagnostic ∧
      (∀ cycle ∈ novel.entryCycles, ∃ first rest, cycle = first :: rest ∧
        (first :: rest ++ [first]).IsChain novel.EntryLink ∧
        (cycleDiagnostic cycle).location = first ∧
        (cycleDiagnostic cycle).message
          = "入场跳转成环: " ++ " -> ".intercalate (first :: rest ++ [first])) ∧
      (novel.entryCycles.map ((↑) : List String → Cycle String)).Nodup ∧
      (∀ cycle : Cycle String,
        cycle ∈ novel.entryCycles.map ((↑) : List String → Cycle String)
          ↔ novel.IsEntryCycle cycle) ∧
      ∀ playback : Playback, playback.novel = novel → ∀ scene ∈ novel.scenes,
        (∀ chain, playback.jump scene.id = .error (.cyclicEntry chain) →
          ∃ cycle ∈ novel.entryCycles, novel.LeadsInto scene.id cycle) ∧
        ∀ cycle ∈ novel.entryCycles, novel.LeadsInto scene.id cycle →
          ∃ before first rest,
            playback.jump scene.id = .error (.cyclicEntry (before ++ first :: rest ++ [first])) ∧
              cycle.IsRotated (first :: rest)) := by
  refine ⟨novel.entryCyclesWithin_eq, fun hids => ⟨novel.filter_isEntryCycle_analyze, ?told,
    novel.nodup_entryCycles, fun cycle => mem_entryCycles_iff hids, ?refused⟩⟩
  case told =>
    intro cycle hmem
    obtain ⟨first, rest, rfl, hcycle⟩ := isEntryCycle_of_mem hids hmem
    exact ⟨first, rest, rfl, (isEntryCycle_cons.1 hcycle).2, rfl, rfl⟩
  case refused =>
    rintro playback rfl scene -
    obtain ⟨passed, last, hpath⟩ := playback.novel.exists_entryPath [] scene.id
    constructor
    · intro chain hjump
      obtain ⟨hold, -⟩ := hpath.enter_cyclic_iff.1 (Playback.jump_eq_error_iff.1 hjump)
      obtain ⟨before, rest, -, -, hcycle⟩ := hpath.exists_cycle hold
      obtain ⟨cycle, hmem, heq⟩ := List.mem_map.1 ((mem_entryCycles_iff hids).2 hcycle)
      exact ⟨cycle, hmem, heq ▸ ⟨last, List.mem_cons_self, hpath.connects⟩⟩
    · intro cycle hmem hleads
      have hcycle := (mem_entryCycles_iff hids).1 (List.mem_map_of_mem hmem)
      have hold := hpath.returns_of_leadsInto hcycle hleads
      obtain ⟨before, rest, rfl, -, hround⟩ := hpath.exists_cycle hold
      refine ⟨before, last, rest, ?_, ?_⟩
      · exact Playback.jump_eq_error_iff.2 (hpath.enter_cyclic_iff.2 ⟨hold, rfl⟩)
      · -- links lead on from the last scene into the one cycle and around the other
        obtain ⟨member, hmember, hon⟩ := hleads.of_connects hcycle hpath.connects
        have hmember' := hround.mem_of_connects List.mem_cons_self hon
        exact Cycle.coe_eq_coe.1 (hcycle.eq_of_mem hround hmember hmember')

/-- The maze has two cycles. The search meets the first of them beyond the gate and reports it from
its north side on. Who jumps to the gate is caught in that one. -/
theorem entryCycles_exact_maze :
    Novel.maze.sceneIds.Nodup ∧ Novel.maze.entryCycles = [["north", "south"], ["well"]] ∧
    Novel.maze.analyze.filter (·.isEntryCycle)
      = [["north", "south"], ["well"]].map cycleDiagnostic ∧
    (∀ cycle : Cycle String, Novel.maze.IsEntryCycle cycle →
      cycle ∈ [["north", "south"], ["well"]].map ((↑) : List String → Cycle String)) ∧
    ∃ before first rest, (Playback.blank .maze (.ofUnix 0)).jump "gate"
        = .error (.cyclicEntry (before ++ first :: rest ++ [first])) ∧
      ["north", "south"].IsRotated (first :: rest) := by
  have hids : Novel.maze.sceneIds.Nodup := by decide
  have hcycles : Novel.maze.entryCycles = [["north", "south"], ["well"]] := by cbv
  let gate : Scene := ⟨"gate", "Gate", [.audio ⟨"g1", "song", .play⟩, .jump ⟨"g2", "north"⟩]⟩
  have hgate : Novel.maze.scene? "gate" = some gate := by cbv
  have hleads : Novel.maze.LeadsInto "gate" (["north", "south"] : List String) :=
    ⟨"north", List.mem_cons_self, .single ⟨gate, hgate, by cbv⟩⟩
  obtain ⟨-, hexact⟩ := entryCycles_exact .maze
  obtain ⟨hreport, -, -, hall, hjump⟩ := hexact hids
  rw [hcycles] at hreport hall hjump
  exact ⟨hids, hcycles, hreport, fun cycle => (hall cycle).2,
    (hjump _ rfl gate (mem_of_scene? hgate)).2 _ List.mem_cons_self hleads⟩

end Novel
end VisualNovel
