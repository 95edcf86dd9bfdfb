import VisualNovel.Stage.Direction

/-!
# Music and sound effects

A `Deck` plays at most one piece of music in a loop, and keeps a record of all that it was told to
do. A `Music` carries out the commands of play on a deck. Fading out takes time: the deck is told
when it begins, and stopped when the time is over, unless other music has taken its place.
-/

namespace VisualNovel

/-! ## The deck -/

/-- Something that a deck was told to do. -/
inductive DeckEvent where
  /-- Play in a loop. -/
  | loop (audioId : String)
  | stop
  /-- Begin to fade out, over the given milliseconds. -/
  | fadeOut (milliseconds : Nat)
  /-- Play once. -/
  | oneShot (audioId : String)
deriving DecidableEq, Repr

/-- A player of music and effects. -/
structure Deck where
  /-- The music that plays in a loop. -/
  current : Option String := none
  /-- All that the deck was told to do, in order. -/
  noted : Array DeckEvent := #[]
deriving DecidableEq, Repr

namespace Deck

/-- A deck that has not been told anything. -/
def silent : Deck := {}

/-- All that the deck was told to do, in order. -/
def events (deck : Deck) : List DeckEvent :=
  deck.noted.toList

/-- Notes an event. -/
def note (deck : Deck) (event : DeckEvent) : Deck :=
  { deck with noted := deck.noted.push event }

/-- An event is noted at the end. -/
@[simp]
theorem events_note (deck : Deck) (event : DeckEvent) :
    (deck.note event).events = deck.events ++ [event] :=
  Array.toList_push

/-- Noting an event leaves the music. -/
@[simp]
theorem current_note (deck : Deck) (event : DeckEvent) :
    (deck.note event).current = deck.current :=
  rfl

/-- Plays music in a loop. -/
def playLoop (deck : Deck) (audioId : String) : Deck :=
  { deck with current := some audioId }.note (.loop audioId)

/-- Stops the music. -/
def stop (deck : Deck) : Deck :=
  { deck with current := none }.note .stop

/-- Begins to fade the music out. It stays the current music until it is stopped. -/
def fadeOut (deck : Deck) (milliseconds : Nat) : Deck :=
  deck.note (.fadeOut milliseconds)

/-- Plays a sound effect. -/
def playOnce (deck : Deck) (audioId : String) : Deck :=
  deck.note (.oneShot audioId)

end Deck

/-! ## Carrying out commands -/

/-- Music that is fading out. -/
structure Fade where
  audioId : String
  /-- The seconds that are left. -/
  remaining : Float32
deriving DecidableEq

/-- A deck, how long fading out takes, and the music that is fading out. -/
structure Music where
  deck : Deck := .silent
  fadeMilliseconds : Nat
  fade : Option Fade := none
deriving DecidableEq

namespace Music

/-- A duration in seconds. -/
def seconds (milliseconds : Nat) : Float32 :=
  Float32.ofNat (milliseconds / 1000)
    + Float32.ofNat (milliseconds % 1000 * 1000000) / 1000000000

/-- Whether music is fading out. -/
def isFading (music : Music) : Bool :=
  music.fade.isSome

/-- Carries out a command. Music that plays already goes on unless it is fading out, and only the
current music fades out. -/
def execute (music : Music) : AudioCommand → Music
  | .playBgm audioId =>
    if !music.isFading && music.deck.current = some audioId then music
    else { music with deck := music.deck.playLoop audioId, fade := none }
  | .stopBgm => { music with deck := music.deck.stop, fade := none }
  | .fadeOutBgm audioId =>
    if music.deck.current = some audioId then
      { music with
        deck := music.deck.fadeOut music.fadeMilliseconds
        fade := some ⟨audioId, seconds music.fadeMilliseconds⟩ }
    else music
  | .playSfx audioId => { music with deck := music.deck.playOnce audioId }

/-- Carries out commands in order. -/
def executeAll (music : Music) (commands : List AudioCommand) : Music :=
  commands.foldl execute music

/-- Lets time pass, in seconds. When a fade is over, the deck is stopped if the faded music is
still the current one. -/
def tick (music : Music) (seconds : Float32) : Music :=
  match music.fade with
  | none => music
  | some fade =>
    let remaining := fade.remaining - seconds
    if 0 < remaining then { music with fade := some { fade with remaining } }
    else if music.deck.current = some fade.audioId then
      { music with deck := music.deck.stop, fade := none }
    else { music with fade := none }

end Music
end VisualNovel
