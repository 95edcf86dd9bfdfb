import VisualNovel.Proofs.Playback.Agreement

/-!
# Two runs side by side

Walks and entries carry the stage, the music and the cues of the way along, and look at none of
them to find the way. So two runs that set out alike, in a sense that single nodes keep and that a
new scene keeps (`Novel.KeepsAlike`), take the same way: they end at the same place and alike, or
fail for the same reason (`Novel.KeepsAlike.enter`). In particular, cues that come before an entry
stay in front of its own (`Novel.enter_after`).
-/

namespace VisualNovel

/-! ## Outcomes -/

/-- Two outcomes are the same failure, or successes that are alike. -/
inductive AlikeOutcomes {α : Type} (alike : α → α → Prop) :
    Except PlaybackError α → Except PlaybackError α → Prop
  | fails (e : PlaybackError) : AlikeOutcomes alike (.error e) (.error e)
  | succeeds {first second : α} (h : alike first second) :
      AlikeOutcomes alike (.ok first) (.ok second)

namespace AlikeOutcomes

variable {α β : Type} {first second : Except PlaybackError α} {alike : α → α → Prop}

/-- Alike outcomes stay alike when what is made of them is alike. -/
theorem map {alike' : β → β → Prop} {f g : α → β} (h : AlikeOutcomes alike first second)
    (hnext : ∀ {x y}, alike x y → alike' (f x) (g y)) :
    AlikeOutcomes alike' (first.map f) (second.map g) := by
  cases h with
  | fails e => exact .fails e
  | succeeds h => exact .succeeds (hnext h)

/-- What is known of both successes may be added. -/
theorem imp {alike' : α → α → Prop} (h : AlikeOutcomes alike first second)
    (himp : ∀ {x y}, first = .ok x → second = .ok y → alike x y → alike' x y) :
    AlikeOutcomes alike' first second := by
  cases h with
  | fails e => exact .fails e
  | succeeds h => exact .succeeds (himp rfl rfl h)

/-- When what is alike is so by a function, the function makes the one outcome of the other. -/
theorem eq_map {f : α → α} (h : AlikeOutcomes alike first second)
    (heq : ∀ {x y}, alike x y → x = f y) : first = second.map f := by
  cases h with
  | fails e => rfl
  | succeeds h => exact congrArg Except.ok (heq h)

end AlikeOutcomes

/-! ## Walks and entries -/

/-- Runs that are alike in what is seen and heard and in their cues stay alike at every node, and
where they enter a scene. -/
structure Novel.KeepsAlike (novel : Novel) (alike : Performance → Cues → Performance → Cues → Prop) :
    Prop where
  directs : ∀ {shown cues shown' cues'} (node : Node), alike shown cues shown' cues' →
    alike (novel.direct shown node).1 (cues ++ (novel.direct shown node).2)
      (novel.direct shown' node).1 (cues' ++ (novel.direct shown' node).2)
  speaks : ∀ {shown cues shown' cues'} (node : Node), alike shown cues shown' cues' →
    alike (novel.speak shown node).1 (cues ++ (novel.speak shown node).2)
      (novel.speak shown' node).1 (cues' ++ (novel.speak shown' node).2)
  enters : ∀ {shown cues shown' cues'}, alike shown cues shown' cues' →
    alike { bgm := shown.bgm } cues { bgm := shown'.bgm } cues'

/-- Landings at the same place that are alike. -/
def Landing.Alike (alike : Performance → Cues → Performance → Cues → Prop)
    (first second : Landing) : Prop :=
  first.cursor = second.cursor ∧ alike first.shown first.cues second.shown second.cues

namespace Novel.KeepsAlike

variable {novel : Novel} {alike : Performance → Cues → Performance → Cues → Prop}
  {shown shown' : Performance} {cues cues' : Cues} (hkeeps : novel.KeepsAlike alike)
include hkeeps

/-- Walks that set out alike end in the same way and alike. -/
theorem walk (i : Nat) (nodes : List Node) (h : alike shown cues shown' cues') :
    (novel.walk i shown cues nodes).ending = (novel.walk i shown' cues' nodes).ending ∧
      alike (novel.walk i shown cues nodes).shown (novel.walk i shown cues nodes).cues
        (novel.walk i shown' cues' nodes).shown (novel.walk i shown' cues' nodes).cues := by
  induction nodes generalizing i shown cues shown' cues' with
  | nil => exact ⟨rfl, h⟩
  | cons node nodes ih =>
    rcases node.kinds with ⟨link, rfl⟩ | hint | hcue
    · exact ⟨rfl, h⟩
    · simp only [walk_interactive hint]
      exact ⟨trivial, hkeeps.speaks node h⟩
    · simp only [walk_cue hcue]
      exact ih (i + 1) (hkeeps.directs node h)

/-- Entries after the same scenes that set out alike end alike. -/
theorem enterAfter {visited : List String} {id : String} {bgm bgm' : Option String}
    (h : alike { bgm } cues { bgm := bgm' } cues') :
    AlikeOutcomes (Landing.Alike alike) (novel.enterAfter visited id bgm cues)
      (novel.enterAfter visited id bgm' cues') := by
  induction hlen : (novel.unvisited visited).length using Nat.strongRecOn
    generalizing visited id bgm cues bgm' cues' with
  | ind len ih =>
    subst hlen
    by_cases hnew : id ∈ visited
    · rw [enterAfter_of_mem hnew, enterAfter_of_mem hnew]
      exact .fails _
    cases hscene : novel.scene? id with
    | none =>
      rw [enterAfter_of_missing hnew hscene, enterAfter_of_missing hnew hscene]
      exact .fails _
    | some scene =>
    by_cases hne : scene.nodes = []
    · rw [enterAfter_of_empty hnew hscene hne, enterAfter_of_empty hnew hscene hne]
      exact .fails _
    rw [enterAfter_of_scene hnew hscene hne, enterAfter_of_scene hnew hscene hne]
    obtain ⟨hending, halike⟩ := hkeeps.walk 0 scene.nodes h
    dsimp only
    rw [← hending]
    cases (novel.walk 0 { bgm } cues scene.nodes).ending with
    | halted i => exact .succeeds ⟨rfl, halike⟩
    | ranOut => exact .succeeds ⟨rfl, halike⟩
    | left target => exact ih _ (length_unvisited_lt hscene hnew) (hkeeps.enters halike) rfl

theorem enter (id : String) {bgm bgm' : Option String}
    (h : alike { bgm } cues { bgm := bgm' } cues') :
    AlikeOutcomes (Landing.Alike alike) (novel.enter id bgm cues) (novel.enter id bgm' cues') :=
  hkeeps.enterAfter h

end Novel.KeepsAlike

/-! ## Cues that come before -/

theorem Cues.append_assoc (first second third : Cues) :
    first ++ second ++ third = first ++ (second ++ third) := by
  change Cues.mk (first.commands ++ second.commands ++ third.commands)
      (first.warnings ++ second.warnings ++ third.warnings) = _
  rw [List.append_assoc, List.append_assoc]
  rfl

/-- The landing with other cues before its own. -/
def Landing.after (before : Cues) (landing : Landing) : Landing :=
  { landing with cues := before ++ landing.cues }

/-- A run with other cues before its own sees and hears the same. -/
theorem Novel.keepsAlike_after (novel : Novel) (before : Cues) :
    novel.KeepsAlike fun shown cues shown' cues' => shown = shown' ∧ cues = before ++ cues' where
  directs := by
    rintro shown _ _ cues node ⟨rfl, rfl⟩
    exact ⟨rfl, Cues.append_assoc _ _ _⟩
  speaks := by
    rintro shown _ _ cues node ⟨rfl, rfl⟩
    exact ⟨rfl, Cues.append_assoc _ _ _⟩
  enters := by
    rintro shown _ _ cues ⟨rfl, rfl⟩
    exact ⟨rfl, rfl⟩

/-- Cues that come before an entry have no part in it. -/
theorem Novel.enter_after (novel : Novel) (before : Cues) (id : String) (bgm : Option String) :
    novel.enter id bgm before = (novel.enter id bgm .none).map (·.after before) := by
  have halike : AlikeOutcomes _ (novel.enter id bgm before) (novel.enter id bgm .none) :=
    (novel.keepsAlike_after before).enter id ⟨rfl, before.append_none.symm⟩
  refine halike.eq_map fun {landing landing'} h => ?_
  obtain ⟨cursor, shown, cues⟩ := landing
  obtain ⟨rfl, rfl, rfl⟩ := h
  rfl

end VisualNovel
