import VisualNovel.Music

/-!
# Fades stop no other music

While music is fading out, others may tell the deck what they like, and commands may take the fade
back or begin another one. Along any such course of `Happening`s a fade that is under way was begun
by a command of its own, and nothing about it has happened since (`Music.fade_since`): a command to
play or to stop ends it, a further fade takes its place, and so does the end of the fade itself. So
each time that the deck is stopped because a fade is over, that is another fade, and the music that
it was begun for is still on the deck: `Music.stops_faded_only`.
-/

namespace VisualNovel

/-- The deck after it was told something. -/
def Deck.after (deck : Deck) : DeckEvent → Deck
  | .loop audioId => deck.playLoop audioId
  | .stop => deck.stop
  | .fadeOut milliseconds => deck.fadeOut milliseconds
  | .oneShot audioId => deck.playOnce audioId

/-- Something that can happen while there is music. -/
inductive Happening where
  | command (command : AudioCommand)
  /-- Time passes, in seconds. -/
  | tick (seconds : Float32)
  /-- The deck is told something by others. -/
  | told (event : DeckEvent)

namespace Music

/-- The music after something has happened. -/
def after (music : Music) : Happening → Music
  | .command command => music.execute command
  | .tick seconds => music.tick seconds
  | .told event => { music with deck := music.deck.after event }

/-- The music after all of that has happened in order. -/
def afterAll (music : Music) (happenings : List Happening) : Music :=
  happenings.foldl after music

/-- The music after as many of the happenings. -/
def afterFirst (music : Music) (happenings : List Happening) (n : Nat) : Music :=
  music.afterAll (happenings.take n)

section
variable {music : Music} {happenings : List Happening} {happening : Happening} {n : Nat}

/-- The next happening comes after all that came before. -/
theorem afterFirst_succ (h : happenings[n]? = some happening) :
    music.afterFirst happenings (n + 1) = (music.afterFirst happenings n).after happening := by
  simp only [afterFirst, afterAll, List.take_add_one, h, Option.toList_some, List.foldl_append,
    List.foldl_cons, List.foldl_nil]

/-- After the last happening nothing more happens. -/
theorem afterFirst_succ_of_none (h : happenings[n]? = none) :
    music.afterFirst happenings (n + 1) = music.afterFirst happenings n := by
  simp only [afterFirst, List.take_add_one, h, Option.toList_none, List.append_nil]

end

/-! ## Single happenings -/

section
variable {music : Music} {happening : Happening} {fade : Fade} {seconds : Float32}

/-- Time stops the deck when it ends the fade of the music on it, and else leaves the deck alone. -/
theorem tick_cases (music : Music) (seconds : Float32) :
    ((music.tick seconds).deck = music.deck ∧
      ∀ fade, (music.tick seconds).fade = some fade →
        ∃ earlier, music.fade = some earlier ∧ earlier.audioId = fade.audioId) ∨
    ∃ fade, music.fade = some fade ∧ music.deck.current = some fade.audioId ∧
      music.tick seconds = { music with deck := music.deck.stop, fade := none } := by
  unfold tick
  cases hfade : music.fade with
  | none => exact .inl ⟨rfl, fun fade h => by rw [hfade] at h; cases h⟩
  | some earlier =>
    dsimp only
    split
    · refine .inl ⟨rfl, ?_⟩
      rintro fade ⟨⟩
      exact ⟨earlier, rfl, rfl⟩
    · split
      · next hcurrent => exact .inr ⟨earlier, rfl, hcurrent, rfl⟩
      · exact .inl ⟨rfl, nofun⟩

/-- A command begins a fade of the music on the deck. -/
def Begins (audioId : String) (music : Music) (happening : Happening) : Prop :=
  happening = .command (.fadeOutBgm audioId) ∧ music.deck.current = some audioId

/-- A command plays or stops music, or begins a fade. -/
def Supersedes (music : Music) : Happening → Prop
  | .command (.playBgm _) | .command .stopBgm => True
  | .command (.fadeOutBgm audioId) => music.deck.current = some audioId
  | .command (.playSfx _) | .tick _ | .told _ => False

/-- Time passes, and the deck is told to stop by that. -/
def Stops (music : Music) (happening : Happening) : Prop :=
  ∃ seconds new, happening = .tick seconds ∧
    (music.tick seconds).deck.events = music.deck.events ++ new ∧ DeckEvent.stop ∈ new

/-- When time stops the deck, the fade of the music on it is over. -/
theorem Stops.spec (h : music.Stops happening) :
    (∃ fade, music.fade = some fade ∧ music.deck.current = some fade.audioId) ∧
      (music.after happening).fade = none := by
  obtain ⟨seconds, new, rfl, hevents, hnew⟩ := h
  rcases music.tick_cases seconds with ⟨hdeck, -⟩ | ⟨fade, hfade, hcurrent, htick⟩
  · rw [hdeck, List.self_eq_append_right] at hevents
    rw [hevents] at hnew
    cases hnew
  · refine ⟨⟨fade, hfade, hcurrent⟩, ?_⟩
    rw [after, htick]

/-- A command does not end a fade as time does. -/
theorem not_stops_command (command : AudioCommand) : ¬music.Stops (.command command) := by
  rintro ⟨seconds, new, hhappening, -⟩
  cases hhappening

/-- A fade that is under way has just begun, or was under way before, and what happened neither
ended nor replaced it. -/
theorem fade_after_cases (h : (music.after happening).fade = some fade) :
    Begins fade.audioId music happening ∨
      (∃ earlier, music.fade = some earlier ∧ earlier.audioId = fade.audioId) ∧
        ¬music.Supersedes happening ∧ ¬music.Stops happening := by
  cases happening with
  | command command =>
    cases command with
    | playBgm id =>
      simp only [after, execute] at h
      split at h
      · next hplays =>
        -- music that goes on does not fade
        simp [isFading, h] at hplays
      · cases h
    | stopBgm => cases h
    | fadeOutBgm id =>
      simp only [after, execute] at h
      split at h
      · next hcurrent =>
        cases h
        exact .inl ⟨rfl, hcurrent⟩
      · next hcurrent => exact .inr ⟨⟨fade, h, rfl⟩, hcurrent, not_stops_command _⟩
    | playSfx effect => exact .inr ⟨⟨fade, h, rfl⟩, id, not_stops_command _⟩
  | tick seconds =>
    refine .inr ⟨?_, id, fun hstops => ?_⟩
    · rcases music.tick_cases seconds with ⟨-, hsame⟩ | ⟨_, -, -, htick⟩
      · exact hsame fade h
      · rw [after, htick] at h
        cases h
    · rw [hstops.spec.2] at h
      cases h
  | told event =>
    refine .inr ⟨⟨fade, h, rfl⟩, id, ?_⟩
    rintro ⟨seconds, new, hhappening, -⟩
    cases hhappening

end

/-! ## Courses of happenings -/

/-- What happens at the index is of the given kind, by then. -/
def At (music : Music) (happenings : List Happening) (n : Nat) (p : Music → Happening → Prop) :
    Prop :=
  ∃ happening, happenings[n]? = some happening ∧ p (music.afterFirst happenings n) happening

section
variable {music : Music} {happenings : List Happening} {fade : Fade} {n i : Nat}

/-- Nothing is there where nothing happens. -/
theorem not_at_of_none (h : happenings[n]? = none) (p : Music → Happening → Prop) :
    ¬music.At happenings n p := by
  rintro ⟨happening, hhappening, -⟩
  rw [h] at hhappening
  cases hhappening

/-- Since the index, nothing has ended or replaced a fade. -/
def Undisturbed (music : Music) (happenings : List Happening) (i n : Nat) : Prop :=
  ∀ k, i < k → k < n → ¬music.At happenings k Supersedes ∧ ¬music.At happenings k Stops

/-- A fade that the next happening leaves alone stays undisturbed. -/
theorem Undisturbed.succ (h : music.Undisturbed happenings i n)
    (hlast : ¬music.At happenings n Supersedes ∧ ¬music.At happenings n Stops) :
    music.Undisturbed happenings i (n + 1) := by
  intro k hik hk
  rcases Nat.lt_succ_iff_lt_or_eq.1 hk with hbefore | rfl
  · exact h k hik hbefore
  · exact hlast

/-- A fade that is under way was begun, and was neither ended nor replaced since. -/
theorem fade_since (hfresh : music.fade = none)
    (h : (music.afterFirst happenings n).fade = some fade) :
    ∃ i < n, music.At happenings i (Begins fade.audioId) ∧ music.Undisturbed happenings i n := by
  induction n generalizing fade with
  | zero =>
    have hnone : (music.afterFirst happenings 0).fade = none := hfresh
    rw [hnone] at h
    cases h
  | succ n ih =>
    cases hhappening : happenings[n]? with
    | none =>
      rw [afterFirst_succ_of_none hhappening] at h
      obtain ⟨i, hi, hbegins, hsince⟩ := ih h
      exact ⟨i, Nat.lt_succ_of_lt hi, hbegins,
        hsince.succ ⟨not_at_of_none hhappening _, not_at_of_none hhappening _⟩⟩
    | some happening =>
      rw [afterFirst_succ hhappening] at h
      have hat : ∀ p, music.At happenings n p → p (music.afterFirst happenings n) happening := by
        rintro p ⟨other, hother, hp⟩
        cases hhappening.symm.trans hother
        exact hp
      rcases fade_after_cases h with hbegins | ⟨⟨earlier, hearlier, hid⟩, hkept, hgoes⟩
      · refine ⟨n, Nat.lt_succ_self n, ⟨happening, hhappening, hbegins⟩, ?_⟩
        intro k hnk hk
        omega
      · obtain ⟨i, hi, hbegins, hsince⟩ := ih hearlier
        rw [hid] at hbegins
        exact ⟨i, Nat.lt_succ_of_lt hi, hbegins, hsince.succ ⟨mt (hat _) hkept, mt (hat _) hgoes⟩⟩

/-- When time stops the deck, the music on it is that of a fade that was begun, and was neither
ended nor replaced since. -/
theorem stops_since (hfresh : music.fade = none) (h : music.At happenings n Stops) :
    ∃ i < n, ∃ id, music.At happenings i (Begins id) ∧ music.Undisturbed happenings i n ∧
      (music.afterFirst happenings n).deck.current = some id := by
  obtain ⟨happening, -, hstops⟩ := h
  obtain ⟨⟨fade, hfade, hcurrent⟩, -⟩ := hstops.spec
  obtain ⟨i, hi, hbegins, hsince⟩ := fade_since hfresh hfade
  exact ⟨i, hi, fade.audioId, hbegins, hsince, hcurrent⟩

end

/-! ## Music that is not told to fade -/

/-- Music that plays already goes on: time passes, a sound effect is played, or the same music. -/
inductive Continues (id : String) : Happening → Prop
  | tick (seconds : Float32) : Continues id (.tick seconds)
  | playSfx (effect : String) : Continues id (.command (.playSfx effect))
  | playBgm : Continues id (.command (.playBgm id))

section
variable {music : Music} {happenings : List Happening} {happening : Happening} {id : String}

/-- After music was played, it is on the deck and does not fade, whatever was before. -/
theorem execute_playBgm (music : Music) (id : String) :
    (music.execute (.playBgm id)).deck.current = some id ∧
      (music.execute (.playBgm id)).isFading = false := by
  simp only [execute]
  split
  · next hplays => simpa [and_comm] using hplays
  · exact ⟨rfl, rfl⟩

/-- Music is not fading when there is no fade. -/
theorem isFading_eq_false_iff : music.isFading = false ↔ music.fade = none :=
  Option.isSome_eq_false_iff.trans Option.isNone_iff_eq_none

/-- Time does nothing to music that is not fading. -/
theorem tick_of_fade_eq_none (hfade : music.fade = none) (seconds : Float32) :
    music.tick seconds = music := by
  simp only [tick, hfade]

/-- Music that goes on stays on the deck, which is told of sound effects only. -/
theorem Continues.spec (h : Continues id happening) (hcurrent : music.deck.current = some id)
    (hfade : music.fade = none) :
    (music.after happening).deck.current = some id ∧ (music.after happening).fade = none ∧
      ∃ effects : List String,
        (music.after happening).deck.events = music.deck.events ++ effects.map .oneShot := by
  cases h with
  | tick seconds =>
    rw [after, tick_of_fade_eq_none hfade]
    exact ⟨hcurrent, hfade, [], (List.append_nil _).symm⟩
  | playSfx effect => exact ⟨hcurrent, hfade, [effect], music.deck.events_note _⟩
  | playBgm =>
    have hgoes : music.execute (.playBgm id) = music := by
      simp [execute, isFading, hcurrent, hfade]
    rw [after, hgoes]
    exact ⟨hcurrent, hfade, [], (List.append_nil _).symm⟩

/-- While a loop goes on, the deck notes nothing but sound effects. -/
theorem events_afterAll_of_continues (h : ∀ happening ∈ happenings, Continues id happening)
    (hcurrent : music.deck.current = some id) (hfade : music.fade = none) :
    ∃ effects : List String,
      (music.afterAll happenings).deck.events = music.deck.events ++ effects.map .oneShot := by
  induction happenings generalizing music with
  | nil => exact ⟨[], (List.append_nil _).symm⟩
  | cons happening happenings ih =>
    obtain ⟨hfirst, hrest⟩ := List.forall_mem_cons.1 h
    obtain ⟨hcurrent, hfade, effects, hevents⟩ := hfirst.spec hcurrent hfade
    obtain ⟨later, hlater⟩ := ih hrest hcurrent hfade
    refine ⟨effects ++ later, ?_⟩
    rw [List.map_append, ← List.append_assoc, ← hevents]
    exact hlater

/-- Time changes nothing while nothing fades out. -/
theorem afterAll_of_ticks (h : ∀ happening ∈ happenings, ∃ seconds, happening = .tick seconds)
    (hfade : music.fade = none) : music.afterAll happenings = music := by
  induction happenings with
  | nil => rfl
  | cons happening happenings ih =>
    obtain ⟨⟨seconds, rfl⟩, hrest⟩ := List.forall_mem_cons.1 h
    have hfirst : music.after (.tick seconds) = music := tick_of_fade_eq_none hfade seconds
    rw [afterAll, List.foldl_cons, hfirst]
    exact ih hrest

end

/-- Whatever happens from when no music is fading out, each time that the deck is stopped because a
fade is over, the music on it is that of another fade which a command has begun before, and since
which no command has played or stopped music or begun a further fade. Once music is played, it is on
the deck and does not fade, and while time passes, sound effects are played or the same music is,
the deck is told of the effects only. Once it is stopped, the deck is told nothing as time passes.
-/
theorem stops_faded_only :
    (∀ (music : Music) happenings, music.fade = none →
      ∃ begun : Nat → Nat,
        (∀ n, music.At happenings n Stops → begun n < n ∧
          ∃ id, music.At happenings (begun n) (Begins id) ∧
            (∀ k, begun n < k → k < n → ¬music.At happenings k Supersedes) ∧
            (music.afterFirst happenings n).deck.current = some id) ∧
        ∀ m n, music.At happenings m Stops → music.At happenings n Stops → begun m = begun n →
          m = n) ∧
    (∀ (music : Music) id happenings, (∀ happening ∈ happenings, Continues id happening) →
      let played := music.execute (.playBgm id)
      played.deck.current = some id ∧ played.fade = none ∧
        ∃ effects : List String,
          (played.afterAll happenings).deck.events
            = played.deck.events ++ effects.map .oneShot) ∧
    ∀ (music : Music) happenings,
      (∀ happening ∈ happenings, ∃ seconds, happening = Happening.tick seconds) →
      let stopped := music.execute .stopBgm
      (stopped.afterAll happenings).deck.events = stopped.deck.events := by
  refine ⟨?_, ?_, ?_⟩
  · intro music happenings hfresh
    have hbegun : ∀ n, ∃ i, music.At happenings n Stops → i < n ∧
        ∃ id, music.At happenings i (Begins id) ∧ music.Undisturbed happenings i n ∧
          (music.afterFirst happenings n).deck.current = some id := by
      intro n
      by_cases hstops : music.At happenings n Stops
      · obtain ⟨i, hspec⟩ := stops_since hfresh hstops
        exact ⟨i, fun _ => hspec⟩
      · exact ⟨0, fun h => absurd h hstops⟩
    obtain ⟨begun, hbegun⟩ := Classical.axiomOfChoice hbegun
    refine ⟨begun, fun n hstops => ?_, fun m n hm hn hsame => ?_⟩
    · obtain ⟨hlt, id, hbegins, hsince, hcurrent⟩ := hbegun n hstops
      exact ⟨hlt, id, hbegins, fun k hik hk => (hsince k hik hk).1, hcurrent⟩
    · -- a stop between a fade and its stop would have ended the fade
      obtain ⟨hltm, -, -, hsincem, -⟩ := hbegun m hm
      obtain ⟨hltn, -, -, hsincen, -⟩ := hbegun n hn
      rcases Nat.lt_trichotomy m n with hmn | hmn | hmn
      · exact absurd hm (hsincen m (hsame ▸ hltm) hmn).2
      · exact hmn
      · exact absurd hn (hsincem n (hsame ▸ hltn) hmn).2
  · intro music id happenings hcontinues played
    obtain ⟨hcurrent, hfading⟩ := music.execute_playBgm id
    have hfade := isFading_eq_false_iff.1 hfading
    exact ⟨hcurrent, hfade, events_afterAll_of_continues hcontinues hcurrent hfade⟩
  · intro music happenings hticks stopped
    rw [afterAll_of_ticks hticks rfl]

/-- Nothing plays, and fading out takes one and a half seconds. -/
def hush : Music := { fadeMilliseconds := 1500 }

/-- A song fades out, is played again in time, and fades out once more while a sound effect is
played; then time stops it. -/
def evening : List Happening :=
  [.command (.playBgm "song"), .command (.fadeOutBgm "song"), .tick 1,
    .command (.playBgm "song"), .command (.fadeOutBgm "song"), .tick 1,
    .command (.playSfx "bell"), .tick 1]

/-- What happens when the song is played once more. -/
def night : List Happening :=
  [.tick 2, .command (.playSfx "bell"), .command (.playBgm "song")]

/-- In such an evening it is the second fade that stops the song, and when the song is played once
more, the deck is told of sound effects only. -/
theorem stops_faded_only_evening :
    hush.fade = none ∧ hush.At evening 7 Stops ∧
    (∃ begun : Nat → Nat, begun 7 = 4 ∧ hush.At evening (begun 7) (Begins "song")) ∧
    (∀ happening ∈ night, Continues "song" happening) ∧
    let played := (hush.afterFirst evening 7).execute (.playBgm "song")
    played.deck.current = some "song" ∧ played.fade = none ∧
      ∃ effects : List String,
        (played.afterAll night).deck.events = played.deck.events ++ effects.map .oneShot := by
  have hstops : hush.At evening 7 Stops := by
    refine ⟨.tick 1, rfl, 1, [.stop], rfl, ?_, List.mem_singleton_self _⟩
    decide +kernel
  have hcontinues : ∀ happening ∈ night, Continues "song" happening := by
    simp only [night, List.forall_mem_cons, List.not_mem_nil, false_imp_iff, implies_true, and_true]
    exact ⟨.tick 2, .playSfx "bell", .playBgm⟩
  obtain ⟨hfades, hplays, -⟩ := stops_faded_only
  obtain ⟨begun, hbegun, -⟩ := hfades hush evening rfl
  obtain ⟨hlt, id, hbegins, hsince, -⟩ := hbegun 7 hstops
  have hcurrent : (hush.afterFirst evening 4).deck.current = some "song" := by decide +kernel
  have hsecond : begun 7 = 4 := by
    have hlast : ¬begun 7 < 4 := by
      intro hearly
      exact hsince 4 hearly (by decide) ⟨.command (.fadeOutBgm "song"), rfl, hcurrent⟩
    obtain ⟨happening, hhappening, rfl, -⟩ := hbegins
    obtain hbegun | hbegun | hbegun : begun 7 = 4 ∨ begun 7 = 5 ∨ begun 7 = 6 := by omega
    · exact hbegun
    · rw [hbegun] at hhappening
      cases hhappening
    · rw [hbegun] at hhappening
      cases hhappening
  refine ⟨rfl, hstops, ⟨begun, hsecond, ?_⟩, hcontinues,
    hplays (hush.afterFirst evening 7) "song" night hcontinues⟩
  rw [hsecond]
  exact ⟨.command (.fadeOutBgm "song"), rfl, rfl, hcurrent⟩

end Music
end VisualNovel
