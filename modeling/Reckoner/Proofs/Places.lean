import Reckoner.Command.Basic
import Reckoner.Proofs.DocumentSettings

/-!
# Numbers of places that are admitted

`Settings.load` and `Job.ofArgs` refuse a number of places that is negative, whether it stands in a
settings file or among the options of a command.  They admit any other, however large.

## Key results

- `nonneg_of_load`, `nonneg_of_loadIfPresent`: the places in settings that have been loaded
- `nonneg_of_ofArgs`: the places in a command line
-/

namespace Reckoner

/-- Whether a number of places, if there is one, is not negative. -/
def OutputSettings.Nonneg (output : OutputSettings) : Prop := ∀ p ∈ output.precision, 0 ≤ p

/-! ## Settings files -/

namespace Settings

open Toml (Entries)

/-- `ofDocument` lets no negative number of places pass. -/
theorem nonneg_of_ofDocument {room : Room} {document : Entries} {settings : Settings}
    (h : ofDocument room document = .ok settings) : settings.output.Nonneg := by
  obtain ⟨hholds, hdescribes⟩ := ofDocument_eq_ok_iff.mp h
  have hsign := hholds (.sign "output" "precision") (by simp [checks])
  -- The number of places comes from the document, whose value passes the check.
  intro p hp
  refine hsign (.integer p) ?_ p rfl
  exact hdescribes.precision.trans (congrArg (Option.map _) hp)

section Found

variable {room : Room} {path : FilePath} {settings : Settings}

/-- `ofText` takes settings from a text that can be read, and from the document in it. -/
theorem ofText_eq_ok_iff {text : String} :
    ofText room path text = .ok settings ↔
      room.reads text ∧ ∃ document, documentOf text = .ok document ∧
        ofDocument room document = .ok settings := by
  rw [ofText]
  -- A text is read, decoded and checked, and each of these may end it.
  cases room.reads text with
  | false => simp
  | true =>
    cases documentOf text with
    | ok document => simp
    | error fault => cases fault <;> simp

/-- `ofFound` takes settings from a file whose bytes are a text. -/
theorem ofFound_eq_ok_iff {found : Found} :
    ofFound room path found = .ok settings ↔
      ∃ bytes text, found = .file bytes ∧ String.fromUTF8? bytes = some text ∧
        ofText room path text = .ok settings := by
  cases found with
  | directory | missing | blocked => simp [ofFound]
  | file bytes => cases htext : String.fromUTF8? bytes <;> simp [ofFound, htext]

/-- `load` takes settings from what is found at a path without a null character. -/
theorem load_eq_ok_iff {found : Found} {loaded : LoadedSettings} :
    load path found room = .ok loaded ↔
      path.holdsNull = false ∧ ∃ settings, ofFound room path found = .ok settings ∧
        { settings, path := some path } = loaded := by
  rw [load]
  cases path.holdsNull with
  | true => simp [bind, Except.bind, throw, throwThe, MonadExceptOf.throw]
  | false => cases ofFound room path found <;> simp [bind, Except.bind, pure, Except.pure]

/-- `fromUTF8?` gives the text that `toUTF8` makes the bytes of. -/
theorem fromUTF8?_eq_some_iff {bytes : ByteArray} {text : String} :
    String.fromUTF8? bytes = some text ↔ text.toUTF8 = bytes := by
  rw [String.fromUTF8?]
  constructor
  · intro h
    split at h
    · cases h
      rfl
    · cases h
  · -- What has been encoded can be decoded.
    rintro rfl
    rw [dif_pos (by exact text.isValidUTF8)]
    rfl

/-- `load` gives the settings of `ofText` for a text that has been encoded. -/
theorem load_of_ofText (hpath : path.holdsNull = false) {text : String}
    (h : ofText room path text = .ok settings) :
    load path (.file text.toUTF8) room = .ok { settings, path := some path } := by
  have hfound : ofFound room path (.file text.toUTF8) = .ok settings :=
    ofFound_eq_ok_iff.mpr ⟨_, text, rfl, fromUTF8?_eq_some_iff.mpr rfl, h⟩
  exact load_eq_ok_iff.mpr ⟨hpath, settings, hfound, rfl⟩

end Found

variable {room : Room} {path : FilePath} {found : Found} {loaded : LoadedSettings}

/-- `load` lets no negative number of places pass. -/
theorem nonneg_of_load (h : load path found room = .ok loaded) :
    loaded.settings.output.Nonneg := by
  obtain ⟨_, settings, hsettings, rfl⟩ := load_eq_ok_iff.mp h
  obtain ⟨_, _, _, _, htext⟩ := ofFound_eq_ok_iff.mp hsettings
  -- Settings of a file are those of the document in it.
  obtain ⟨_, _, _, hdocument⟩ := ofText_eq_ok_iff.mp htext
  exact nonneg_of_ofDocument hdocument

/-- `loadIfPresent` lets no negative number of places pass: by default there is none at all. -/
theorem nonneg_of_loadIfPresent (h : loadIfPresent path found room = .ok loaded) :
    loaded.settings.output.Nonneg := by
  -- The file is loaded if it is there, and the defaults count if not.
  cases found with
  | file bytes =>
    rw [loadIfPresent] at h
    split at h
    · cases h
      nofun
    · exact nonneg_of_load h
  | directory | missing | blocked =>
    cases h
    nofun

end Settings

/-! ## Options -/

namespace Command

/-- `readPlaces` lets no negative number pass. -/
theorem Change.nonneg_of_readPlaces {entered : String} {p : Int}
    (h : Change.readPlaces entered = .ok p) : 0 ≤ p := by
  unfold Change.readPlaces at h
  split at h
  · split at h
    · cases h
    next hneg =>
      cases h
      omega
  · cases h

/-- `apply` leaves the number of places alone, however often it is used. -/
theorem Change.precision_foldl_apply (settings : Settings) (changes : List Change) :
    (changes.foldl Change.apply settings).output.precision = settings.output.precision := by
  induction changes generalizing settings with
  | nil => rfl
  | cons change changes ih =>
    rw [List.foldl_cons, ih]
    cases change <;> rfl

/-- `applyAll` gives no negative number of places to settings that have none. -/
theorem Change.nonneg_of_applyAll {settings changed : Settings} {changes : List Change}
    (hnonneg : settings.output.Nonneg) (h : Change.applyAll settings changes = .ok changed) :
    changed.output.Nonneg := by
  unfold Change.applyAll at h
  split at h
  -- Without an option for it the number of places is the one of the settings.
  · cases h
    intro p hp
    rw [Change.precision_foldl_apply] at hp
    exact hnonneg p hp
  · obtain ⟨places, hplaces, h⟩ := bind_eq_ok_iff.mp h
    cases h
    rintro p ⟨⟩
    exact Change.nonneg_of_readPlaces hplaces

/-- `ofArgs` evaluates under no negative number of places. -/
theorem Job.nonneg_of_ofArgs {settings : Settings} (hnonneg : settings.output.Nonneg)
    {args : List String} {output : OutputSettings} {text : String}
    (h : Job.ofArgs settings .eval args = .ok (.evaluate output text)) : output.Nonneg := by
  -- The options are split, applied to the settings and followed by the text.
  obtain ⟨read, _, h⟩ := bind_eq_ok_iff.mp h
  obtain ⟨changed, hchanged, h⟩ := bind_eq_ok_iff.mp h
  obtain ⟨_, _, h⟩ := bind_eq_ok_iff.mp h
  cases h
  exact Change.nonneg_of_applyAll hnonneg hchanged

end Command

end Reckoner
