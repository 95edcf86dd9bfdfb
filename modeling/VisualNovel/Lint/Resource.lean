import VisualNovel.Novel.Basic

/-!
# Resources

The resources of a novel are the addresses of its pictures and sounds. An address that is not
remote is the path of a file, seen from the directory of the novel's own file.
-/

namespace VisualNovel

/-- What a resource is for. -/
inductive ResourceKind where
  | background
  | sprite
  | audio
deriving DecidableEq, Repr

/-- The wording of a kind of resource. -/
def ResourceKind.describe : ResourceKind → String
  | .background => "背景"
  | .sprite => "立绘"
  | .audio => "音频"

/-- An address that a novel declares. -/
structure Resource where
  kind : ResourceKind
  address : String
deriving DecidableEq, Repr

/-- How remote addresses begin. -/
def remoteBeginnings : List String := ["http://", "https://", "data:"]

/-- Whether the address is that of a file. -/
def Resource.isLocal (resource : Resource) : Bool :=
  !remoteBeginnings.any fun beginning => beginning.toList.isPrefixOf resource.address.toList

/-- All addresses that a novel declares: those of backgrounds, of sprites, and of audio. Of
backgrounds and of audio assets with one id, the first gives the address. -/
def Novel.resources (novel : Novel) : List Resource :=
  novel.backgrounds.filterMap (fun background =>
    (novel.backgroundUrl? background.id).map (⟨.background, ·⟩))
  ++ novel.characters.flatMap (fun character =>
    character.sprites.filterMap fun sprite => (address? sprite.imageUrl).map (⟨.sprite, ·⟩))
  ++ novel.audio.filterMap fun asset => (novel.audioUrl? asset.id).map (⟨.audio, ·⟩)

end VisualNovel
