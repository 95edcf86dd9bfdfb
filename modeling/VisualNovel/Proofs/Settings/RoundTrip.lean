import VisualNovel.Proofs.Disk.Files
import VisualNovel.Proofs.Schema.Float
import VisualNovel.Proofs.Schema.Records
import VisualNovel.Settings

/-!
# Settings are read back

The record of the settings is faithful to all settings whose speed is finite and above zero and
whose fading time has 64 bits (`Settings.faithful`). Settings that were read from a text, in
whatever form, have such a time (`Settings.fade_lt_of_ofText`), and those that make sense have a
speed above zero. So they are read back from their own text, unless the speed is infinite: then null
stands in its place, which is no speed (`Settings.ofText_toText_of_isInf`). `Settings.saved_readsBack`
puts this together with what a disk does with a file, and `Settings.hasty_lost` shows settings whose
speed is infinite because it was given as a number that 32 bits cannot hold.
-/

namespace VisualNovel

open Codec VisualNovel.Field

/-! ## The records -/

namespace TextSettings

variable {settings : TextSettings}

/-- The settings of texts are read back when their speed is finite and above zero. -/
theorem faithful (hspeed : 0 < settings.speed) (hfinite : settings.speed.isInf = false) (n : Nat) :
    record.Faithful n settings where
  names := by decide
  build := rfl
  fields := ⟨faithful_withDefault _ _ (faithful_float32 hspeed hfinite n),
    faithful_withDefault _ _ (faithful_flag n _), trivial⟩

/-- An infinite speed is written as null. -/
theorem write_of_isInf (hspeed : 0 < settings.speed) (hinf : settings.speed.isInf = true) :
    record.codec.write settings
      = .ofMembers [("chars_per_second", .null), ("animate", .bool settings.animate)] := by
  have hwrite : record.codec.write settings = .ofMembers
      [("chars_per_second", float32.write settings.speed), ("animate", .bool settings.animate)] :=
    rfl
  rw [hwrite, write_float32_of_isInf hspeed hinf]

/-- The settings of texts are written as plain values, also with an infinite speed. -/
theorem isPlain_write (hspeed : 0 < settings.speed) :
    (record.codec.write settings).IsPlain 1 := by
  cases hinf : settings.speed.isInf with
  | false => exact (faithful hspeed hinf 0).codec.isPlain
  | true =>
    rw [write_of_isInf hspeed hinf]
    refine .ofMembers ?_
    simp only [List.forall_mem_cons]
    exact ⟨.null 0, .bool 0 _, nofun⟩

/-- An infinite speed is not read back. -/
theorem read_write_of_isInf (hspeed : 0 < settings.speed) (hinf : settings.speed.isInf = true)
    (source : Source) : record.codec.read source (record.codec.write settings)
      = .error (.invalidType .null (.number "f32")) := by
  rw [write_of_isInf hspeed hinf]
  rfl

end TextSettings

/-- The settings of audio are read back when the fading time has 64 bits. -/
theorem AudioSettings.faithful {settings : AudioSettings}
    (hfade : settings.fadeMilliseconds < Json.naturalBound) (n : Nat) :
    record.Faithful n settings where
  names := by decide
  build := rfl
  fields := ⟨faithful_withDefault _ _ (faithful_natural _ hfade n), trivial⟩

/-- A fading time that is read has 64 bits, and so has the one that is assumed. -/
theorem AudioSettings.fade_lt_of_read {settings : AudioSettings} {source : Source} {json : Json}
    (h : record.codec.read source json = .ok settings) :
    settings.fadeMilliseconds < Json.naturalBound := by
  obtain ⟨⟨fade, ⟨⟩⟩, ⟨hfade, -⟩, rfl⟩ := Record.takes_of_read h
  rcases read_or_eq_of_takes hfade with ⟨source, json, hread⟩ | rfl
  · exact lt_of_read_natural hread
  · decide

/-- The settings for debugging are read back. -/
theorem DebugSettings.faithful (settings : DebugSettings) (n : Nat) :
    record.Faithful n settings where
  names := by decide
  build := rfl
  fields := ⟨faithful_withDefault _ _ (faithful_flag n _),
    faithful_withDefault _ _ (faithful_text n _), trivial⟩

namespace Settings

variable {settings : Settings}

/-- Settings are read back when their speed and their fading time are. -/
theorem faithful (hspeed : 0 < settings.text.speed) (hfinite : settings.text.speed.isInf = false)
    (hfade : settings.audio.fadeMilliseconds < Json.naturalBound) : record.Faithful 1 settings where
  names := by decide
  build := rfl
  fields := ⟨faithful_withDefault _ _ (faithful_textAs .path 1 _),
    faithful_withDefault _ _ (TextSettings.faithful hspeed hfinite 0).codec,
    faithful_withDefault _ _ (AudioSettings.faithful hfade 0).codec,
    faithful_withDefault _ _ (settings.debug.faithful 0).codec, trivial⟩

/-! ## The text -/

/-- Settings are read back from their own text. -/
theorem ofText_toText (hspeed : 0 < settings.text.speed)
    (hfinite : settings.text.speed.isInf = false)
    (hfade : settings.audio.fadeMilliseconds < Json.naturalBound) :
    ofText settings.toText = .ok settings := by
  have hread := (faithful hspeed hfinite hfade).codec.parse_pretty
  rw [ofText, toText, hread]

/-- The members of the written settings, in their order. -/
theorem write_eq (settings : Settings) : record.codec.write settings = .ofMembers [
    ("saves_dir", .ofString settings.savesFolder),
    ("text", TextSettings.record.codec.write settings.text),
    ("audio", AudioSettings.record.codec.write settings.audio),
    ("debug", DebugSettings.record.codec.write settings.debug)] :=
  rfl

/-- Settings are written as plain values, also with an infinite speed. -/
theorem isPlain_write (hspeed : 0 < settings.text.speed)
    (hfade : settings.audio.fadeMilliseconds < Json.naturalBound) :
    (record.codec.write settings).IsPlain 2 := by
  rw [write_eq]
  refine .ofMembers ?_
  simp only [List.forall_mem_cons]
  exact ⟨.string 1 _, TextSettings.isPlain_write hspeed,
    (AudioSettings.faithful hfade 0).codec.isPlain, (settings.debug.faithful 0).codec.isPlain,
    nofun⟩

/-- Text settings that are not read are reported before what follows them is looked at. -/
theorem read_of_text_error {folder : String} {json : Json} {others : List (String × Json)}
    {source : Source} {e : ReadError} (h : TextSettings.record.codec.read source json = .error e) :
    record.codec.read source
      (.ofMembers (("saves_dir", .ofString folder) :: ("text", json) :: others)) = .error e := by
  have hmeet : record.fields.meet source "text" json (some folder, none, none, none, ())
      = .error e := by
    change (TextSettings.record.codec.read source json >>= _) >>= _ = _
    rw [h]
    rfl
  change record.fields.meet source "text" json (some folder, none, none, none, ()) >>= _ >>= _ = _
  rw [hmeet]
  rfl

/-- Null stands in the place of an infinite speed, and reading stops at it. -/
theorem ofText_toText_of_isInf (hspeed : 0 < settings.text.speed)
    (hinf : settings.text.speed.isInf = true)
    (hfade : settings.audio.fadeMilliseconds < Json.naturalBound) :
    ofText settings.toText = .error (.malformed "invalid type: null, expected f32") := by
  have htext := TextSettings.read_write_of_isInf hspeed hinf .text
  have hread : record.codec.parse (record.codec.write settings).pretty
      = .error (.invalidType .null (.number "f32")) := by
    rw [parse, (isPlain_write hspeed hfade).isWritable.parse?_pretty, write_eq]
    exact read_of_text_error htext
  rw [ofText, toText, hread]
  rfl

/-- Settings that are read from a text have a fading time of 64 bits. -/
theorem fade_lt_of_ofText {text : String} (h : ofText text = .ok settings) :
    settings.audio.fadeMilliseconds < Json.naturalBound := by
  rw [ofText] at h
  split at h
  · next settings' hparse =>
    cases h
    obtain ⟨json, hread⟩ := exists_read_of_parse hparse
    obtain ⟨⟨folder, text, audio, others⟩, ⟨-, -, haudio, -⟩, rfl⟩ := Record.takes_of_read hread
    rcases read_or_eq_of_takes haudio with ⟨source, json, hread⟩ | rfl
    · exact AudioSettings.fade_lt_of_read hread
    · show 1500 < Json.naturalBound
      decide
  · cases h

/-! ## The file -/

variable {disk later : Disk} {path : String}

/-- Settings make sense when texts go on, music takes time to fade and saves have a folder. -/
theorem validate_eq_ok_iff : settings.validate = .ok () ↔
    0 < settings.text.speed ∧ settings.audio.fadeMilliseconds ≠ 0 ∧ settings.savesFolder ≠ "" := by
  rw [validate]
  split
  · next hspeed => simp_all
  · split
    · next hfade => simp_all
    · split
      · next hfolder => simp_all
      · next hspeed hfade hfolder => simp_all

/-- Settings that are read from a disk have been read from a text. -/
theorem exists_text_of_read (h : read disk path = .ok (some settings)) :
    ∃ text, ofText text = .ok settings := by
  rw [read] at h
  split at h
  · split at h
    · next text _ =>
      refine ⟨text, ?_⟩
      cases hread : ofText text with
      | error e =>
        rw [hread] at h
        cases h
      | ok settings' =>
        rw [hread] at h
        cases h
        rfl
    · cases h
  · cases h

/-- What is read after saving is what the text says. -/
theorem read_of_save (h : save disk path settings = .ok later) :
    read later path = (ofText settings.toText).map some := by
  rw [save] at h
  split at h
  · next written hwrite =>
    cases h
    obtain ⟨hcontains, htext⟩ := Disk.readText_of_write hwrite
    rw [read, if_pos hcontains, htext]
  · cases h

/-- Where a file can be written, settings can be saved. -/
theorem exists_save {elsewhere : Disk} {bytes : ByteArray}
    (h : disk.write path bytes = .ok elsewhere) (settings : Settings) :
    ∃ later, save disk path settings = .ok later := by
  obtain ⟨later, hlater⟩ := Disk.exists_write h settings.toText.toUTF8
  exact ⟨later, by rw [save, hlater]⟩

/-- Settings that are read and make sense are used. -/
theorem load_of_read (h : read disk path = .ok (some settings))
    (hvalid : settings.validate = .ok ()) : load disk path = settings := by
  rw [load, h]
  dsimp only
  rw [hvalid]

/-- Without settings that can be read, the default is used. -/
theorem load_of_read_error {e : SettingsError} (h : read disk path = .error e) :
    load disk path = {} := by
  rw [load, h]

/-- Settings that were read from some file and make sense are saved wherever a file can be written.
If their speed is finite, the same settings are read and loaded from there. An infinite speed, which
a number too great for 32 bits is read as, is saved as null; that is refused when it is read, and
loading falls back on the default settings. -/
theorem saved_readsBack {before disk elsewhere : Disk} {source path : String} {bytes : ByteArray}
    {settings : Settings} (hread : read before source = .ok (some settings))
    (hvalid : settings.validate = .ok ()) (hwrite : disk.write path bytes = .ok elsewhere) :
    ∃ later, save disk path settings = .ok later ∧
      (settings.text.speed.isInf = false →
        read later path = .ok (some settings) ∧ load later path = settings) ∧
      (settings.text.speed.isInf = true →
        read later path = .error (.malformed "invalid type: null, expected f32") ∧
          load later path = {}) := by
  obtain ⟨hspeed, -, -⟩ := validate_eq_ok_iff.1 hvalid
  obtain ⟨text, htext⟩ := exists_text_of_read hread
  have hfade := fade_lt_of_ofText htext
  obtain ⟨later, hsave⟩ := exists_save hwrite settings
  refine ⟨later, hsave, fun hfinite => ?_, fun hinf => ?_⟩
  · have hagain : read later path = .ok (some settings) := by
      rw [read_of_save hsave, ofText_toText hspeed hfinite hfade]
      rfl
    exact ⟨hagain, load_of_read hagain hvalid⟩
  · have hrefused : read later path = .error (.malformed "invalid type: null, expected f32") := by
      rw [read_of_save hsave, ofText_toText_of_isInf hspeed hinf hfade]
      rfl
    exact ⟨hrefused, load_of_read_error hrefused⟩

/-- A disk with nothing on it but a settings file. -/
def deskWith (text : String) : Disk :=
  (Disk.blank ["home"]).plant ["home", "config.json"] (.file text.toUTF8)

/-- On the desk the settings can be written. -/
theorem write_deskWith (text : String) : (deskWith text).write "config.json" .empty
    = .ok ((deskWith text).put ["home", "config.json"] (.file .empty)) :=
  rfl

/-- The text of settings with the greatest fading time and a speed that is no binary number. -/
def calmText : String :=
  "\x7b\"saves_dir\": \"\\u6d77\\\"\", \"text\": \x7b\"chars_per_second\": 0.1\x7d, "
    ++ "\"audio\": [18446744073709551615]\x7d"

/-- The settings in that text. -/
def calm : Settings :=
  { savesFolder := "海\"", text := { speed := .ofBits 0x3dcccccd }
    audio := { fadeMilliseconds := 18446744073709551615 } }

/-- The text of settings with a speed that is too great for 32 bits. -/
def hastyText : String :=
  "\x7b\"text\": \x7b\"chars_per_second\": 1e39\x7d\x7d"

/-- The settings in that text. -/
def hasty : Settings :=
  { text := { speed := .ofBits 0x7f800000 } }

/-- On the desk there are the settings that its text says. -/
theorem read_deskWith {text : String} (h : ofText text = .ok settings) :
    read (deskWith text) "config.json" = .ok (some settings) := by
  have hfind : (deskWith text).find "config.json"
      = .ok (["home", "config.json"], .file text.toUTF8) := rfl
  have hcontains : (deskWith text).contains "config.json" = true := by
    rw [Disk.contains, hfind]
    rfl
  rw [read, if_pos hcontains, Disk.readText_of_find hfind]
  dsimp only
  rw [h]
  rfl

/-- The calm settings are read from the desk. -/
theorem read_calm : read (deskWith calmText) "config.json" = .ok (some calm) :=
  read_deskWith (eq_ok_of_toOption (by decide +kernel))

/-- The hasty settings are read from the desk, with a speed that is infinite. -/
theorem read_hasty : read (deskWith hastyText) "config.json" = .ok (some hasty) :=
  read_deskWith (eq_ok_of_toOption (by decide +kernel))

/-- Both settings are saved; only the calm ones are read back. -/
theorem saved_readsBack_calm :
    (read (deskWith calmText) "config.json" = .ok (some calm) ∧ calm.validate = .ok () ∧
      calm.text.speed.isInf = false ∧
      ∃ later, save (deskWith calmText) "config.json" calm = .ok later ∧
        read later "config.json" = .ok (some calm) ∧ load later "config.json" = calm) ∧
    read (deskWith hastyText) "config.json" = .ok (some hasty) ∧ hasty.validate = .ok () ∧
      hasty.text.speed.isInf = true ∧
      ∃ later, save (deskWith hastyText) "config.json" hasty = .ok later ∧
        read later "config.json" = .error (.malformed "invalid type: null, expected f32") ∧
        load later "config.json" = {} := by
  have hcalm : calm.validate = .ok () :=
    validate_eq_ok_iff.2 ⟨by decide +kernel, by decide, by decide⟩
  have hhasty : hasty.validate = .ok () :=
    validate_eq_ok_iff.2 ⟨by decide +kernel, by decide, by decide⟩
  have hfinite : calm.text.speed.isInf = false := by decide +kernel
  have hinf : hasty.text.speed.isInf = true := by decide +kernel
  obtain ⟨later, hsave, hsaved, -⟩ := saved_readsBack read_calm hcalm (write_deskWith calmText)
  obtain ⟨later', hsave', -, hlost⟩ := saved_readsBack read_hasty hhasty (write_deskWith hastyText)
  exact ⟨⟨read_calm, hcalm, hfinite, later, hsave, hsaved hfinite⟩,
    read_hasty, hhasty, hinf, later', hsave', hlost hinf⟩

/-- The hasty settings were read and make sense, and are lost by saving them. -/
theorem hasty_lost :
    read (deskWith hastyText) "config.json" = .ok (some hasty) ∧ hasty.validate = .ok () ∧
      ∃ later, save (deskWith hastyText) "config.json" hasty = .ok later ∧
        read later "config.json" ≠ .ok (some hasty) ∧ load later "config.json" ≠ hasty := by
  have hspeed : 0 < hasty.text.speed := by decide +kernel
  have hinf : hasty.text.speed.isInf = true := by decide +kernel
  have hvalid : hasty.validate = .ok () := validate_eq_ok_iff.2 ⟨hspeed, by decide, by decide⟩
  obtain ⟨later, hsave⟩ := exists_save (write_deskWith hastyText) hasty
  have hread := read_of_save hsave
  rw [ofText_toText_of_isInf hspeed hinf (by decide)] at hread
  refine ⟨read_hasty, hvalid, later, hsave, ?_, ?_⟩
  · rw [hread]
    nofun
  · rw [load_of_read_error hread]
    decide +kernel

end Settings
end VisualNovel
