import Reckoner.Command.Run
import Reckoner.Proofs.LongNumbers
import Reckoner.Proofs.Places

/-!
# What loading settings comes to

`Settings.load` goes through four stages, each of which may fail: there has to be a file at the
path, its bytes have to encode a text, the text has to be a document, and the document has to pass
the checks of its values.  A failure is a refusal, which a run answers with a report, or an
`Obstacle`, which breaks off the run: a null character in the path, bytes that encode no text, a
whole number that is too long to be read or quoted, and a lack of room for one or the other.

## Key results

- `load_eq_refused_iff`: what is refused, and why
- `load_eq_broken_iff`: what breaks off the loading instead
- `load_by_checks`: what a document is admitted for, and which of its faults is told
- `load_hexadecimal`, `load_decimal`: what becomes of a number that is checked or read
- `run_of_load_error`: the end of a run whose settings cannot be loaded
- `load_answered`: settings are admitted or refused with a report, unless an `Obstacle` is met
-/

namespace Reckoner

/-- What settings from the file at a path have in common. -/
structure LoadedSettings.Admitted (path : FilePath) (loaded : LoadedSettings) : Prop where
  nonneg : loaded.settings.output.Nonneg
  level_mem : loaded.settings.level.name ∈ ["DEBUG", "INFO", "WARNING", "ERROR", "CRITICAL"]
  path_eq : loaded.path = some path

namespace Settings

open Toml (Entries)

/-! ## Stages of loading -/

/-- What is found at a path is refused: it is no file, or a text that is no document, or a document
with a wrong value that can be quoted. -/
inductive Refuses (room : Room) (path : FilePath) : Found → ConfigError → Prop
  | directory : Refuses room path .directory (.unreadable path.toString .directory)
  | missing : Refuses room path .missing (.unreadable path.toString .missing)
  | blocked : Refuses room path .blocked (.unreadable path.toString .blocked)
  | malformed {text : String} (hroom : room.reads text)
      (h : documentOf text = .error .malformed) :
      Refuses room path (.file text.toUTF8) (.malformed path.toString)
  | value {text : String} {document : Entries} {e : ConfigError} (hroom : room.reads text)
      (hdocument : documentOf text = .ok document)
      (h : FirstFault room document checks (.refused e)) :
      Refuses room path (.file text.toUTF8) e

/-- What is found at a path breaks off the loading: it is a file, but it encodes no text, or a text
that there is no room to read, or a text with a number that is too long to be read, or a document
with a wrong value that cannot be quoted. -/
inductive Breaks (room : Room) : Found → Obstacle → Prop
  | undecodable {bytes : ByteArray} (h : ∀ text : String, text.toUTF8 ≠ bytes) :
      Breaks room (.file bytes) .undecodable
  | exhausted {text : String} (h : room.reads text = false) :
      Breaks room (.file text.toUTF8) .exhausted
  | overlong {text : String} (hroom : room.reads text)
      (h : documentOf text = .error .overlong) :
      Breaks room (.file text.toUTF8) .overlong
  | value {text : String} {document : Entries} {o : Obstacle} (hroom : room.reads text)
      (hdocument : documentOf text = .ok document)
      (h : FirstFault room document checks (.broken o)) :
      Breaks room (.file text.toUTF8) o

section Stages

variable {room : Room} {path : FilePath} {found : Found}

/-- `ofText` refuses a text that is no document, or what is wrong with the document in it. -/
theorem ofText_eq_refused_iff {text : String} {e : ConfigError} :
    ofText room path text = .error (.refused e) ↔
      room.reads text ∧ (documentOf text = .error .malformed ∧ e = .malformed path.toString ∨
        ∃ document, documentOf text = .ok document ∧
          FirstFault room document checks (.refused e)) := by
  simp only [← ofDocument_eq_error_iff]
  rw [ofText]
  cases room.reads text with
  | false => simp
  | true =>
    cases documentOf text with
    | ok document => simp
    | error fault => cases fault <;> simp [eq_comm]

/-- `ofText` breaks off for a lack of room, for a number that is too long, or for a value of the
document that cannot be quoted. -/
theorem ofText_eq_broken_iff {text : String} {o : Obstacle} :
    ofText room path text = .error (.broken o) ↔
      room.reads text = false ∧ o = .exhausted ∨
        room.reads text ∧ (documentOf text = .error .overlong ∧ o = .overlong ∨
          ∃ document, documentOf text = .ok document ∧
            FirstFault room document checks (.broken o)) := by
  simp only [← ofDocument_eq_error_iff]
  rw [ofText]
  cases room.reads text with
  | false => simp [eq_comm]
  | true =>
    cases documentOf text with
    | ok document => simp
    | error fault => cases fault <;> simp [eq_comm]

/-- `ofFound` reads the text that has been encoded. -/
theorem ofFound_toUTF8 (text : String) :
    ofFound room path (.file text.toUTF8) = ofText room path text := by
  rw [ofFound, fromUTF8?_eq_some_iff.mpr rfl]

/-- `ofFound` refuses what `Refuses` says, and nothing else. -/
theorem ofFound_eq_refused_iff {e : ConfigError} :
    ofFound room path found = .error (.refused e) ↔ Refuses room path found e := by
  constructor
  · intro h
    cases found with
    | directory => cases h; exact .directory
    | missing => cases h; exact .missing
    | blocked => cases h; exact .blocked
    | file bytes =>
      -- A file is refused for what is wrong with its text, if its bytes encode one.
      cases hbytes : String.fromUTF8? bytes with
      | none => simp [ofFound, hbytes] at h
      | some text =>
        obtain rfl := fromUTF8?_eq_some_iff.mp hbytes
        rw [ofFound_toUTF8, ofText_eq_refused_iff] at h
        obtain ⟨hroom, ⟨hmalformed, rfl⟩ | ⟨_, hdocument, hfault⟩⟩ := h
        · exact .malformed hroom hmalformed
        · exact .value hroom hdocument hfault
  · intro h
    cases h with
    | directory | missing | blocked => rfl
    | malformed hroom h =>
      rw [ofFound_toUTF8, ofText_eq_refused_iff]
      exact ⟨hroom, Or.inl ⟨h, rfl⟩⟩
    | value hroom hdocument h =>
      rw [ofFound_toUTF8, ofText_eq_refused_iff]
      exact ⟨hroom, Or.inr ⟨_, hdocument, h⟩⟩

/-- `ofFound` breaks off for what `Breaks` says, and for nothing else. -/
theorem ofFound_eq_broken_iff {o : Obstacle} :
    ofFound room path found = .error (.broken o) ↔ Breaks room found o := by
  constructor
  · intro h
    cases found with
    | directory | missing | blocked => cases h
    | file bytes =>
      cases hbytes : String.fromUTF8? bytes with
      | none =>
        -- Decoding finds every text that the bytes encode.
        have hno : ∀ text : String, text.toUTF8 ≠ bytes := by
          intro text htext
          rw [fromUTF8?_eq_some_iff.mpr htext] at hbytes
          cases hbytes
        rw [ofFound, hbytes] at h
        cases h
        exact .undecodable hno
      | some text =>
        obtain rfl := fromUTF8?_eq_some_iff.mp hbytes
        rw [ofFound_toUTF8, ofText_eq_broken_iff] at h
        obtain ⟨hroom, rfl⟩ | ⟨hroom, ⟨hoverlong, rfl⟩ | ⟨_, hdocument, hfault⟩⟩ := h
        · exact .exhausted hroom
        · exact .overlong hroom hoverlong
        · exact .value hroom hdocument hfault
  · intro h
    cases h with
    | @undecodable bytes h =>
      have hbytes : String.fromUTF8? bytes = none :=
        Option.eq_none_iff_forall_ne_some.mpr fun text ht => h text (fromUTF8?_eq_some_iff.mp ht)
      rw [ofFound, hbytes]
    | exhausted h =>
      rw [ofFound_toUTF8, ofText_eq_broken_iff]
      exact Or.inl ⟨h, rfl⟩
    | overlong hroom h =>
      rw [ofFound_toUTF8, ofText_eq_broken_iff]
      exact Or.inr ⟨hroom, Or.inl ⟨h, rfl⟩⟩
    | value hroom hdocument h =>
      rw [ofFound_toUTF8, ofText_eq_broken_iff]
      exact Or.inr ⟨hroom, Or.inr ⟨_, hdocument, h⟩⟩

/-- `load` fails for a null character in the path, and otherwise as `ofFound` does. -/
theorem load_eq_error_iff {failure : LoadFailure} :
    load path found room = .error failure ↔
      path.holdsNull ∧ failure = .broken .nullInPath ∨
        path.holdsNull = false ∧ ofFound room path found = .error failure := by
  rw [load]
  -- The path is looked at before anything that is found there.
  cases path.holdsNull with
  | true => simp [bind, Except.bind, throw, throwThe, MonadExceptOf.throw, eq_comm]
  | false => cases ofFound room path found <;> simp [bind, Except.bind, pure, Except.pure]

/-- `load` refuses what `Refuses` says, unless there is a null character in the path. -/
theorem load_eq_refused_iff {e : ConfigError} :
    load path found room = .error (.refused e) ↔
      path.holdsNull = false ∧ Refuses room path found e := by
  rw [load_eq_error_iff, ofFound_eq_refused_iff]
  simp

/-- `load` breaks off for a null character in the path, and otherwise for what `Breaks` says. -/
theorem load_eq_broken_iff {o : Obstacle} :
    load path found room = .error (.broken o) ↔
      path.holdsNull ∧ o = .nullInPath ∨ path.holdsNull = false ∧ Breaks room found o := by
  rw [load_eq_error_iff, ofFound_eq_broken_iff]
  simp

/-- Settings that `load` gives are `Admitted`. -/
theorem admitted_of_load {loaded : LoadedSettings} (h : load path found room = .ok loaded) :
    loaded.Admitted path where
  nonneg := nonneg_of_load h
  level_mem := by cases loaded.settings.level <;> decide
  path_eq := by
    obtain ⟨_, settings, _, rfl⟩ := load_eq_ok_iff.mp h
    rfl

/-- `load` looks at nothing in a file but the document that `documentOf` reads. -/
theorem load_of_documentOf (hpath : path.holdsNull = false) {text : String} {document : Entries}
    (hreads : room.reads text) (h : documentOf text = .ok document) :
    load path (.file text.toUTF8) room =
      (ofDocument room document).map fun settings => { settings, path := some path } := by
  have htext : ofText room path text = ofDocument room document := by
    rw [ofText, if_pos hreads, h]
  rw [load, hpath, ofFound_toUTF8, htext]
  cases ofDocument room document <;> rfl

end Stages

/-- `load` admits a document if and only if it passes all checks, and its settings are then the
values of the keys that it has and the defaults of the others.  Otherwise it fails for the first
check that fails.  This is a refusal if the values that are rejected can be quoted.  Documents that
agree in what is looked at come to the same. -/
theorem load_by_checks (room : Room) {path : FilePath} (hpath : path.holdsNull = false)
    {text : String} {document : Entries} (hreads : room.reads text)
    (hdocument : documentOf text = .ok document) :
    ((∃ loaded, load path (.file text.toUTF8) room = .ok loaded) ↔
      ∀ c ∈ checks, c.Holds document) ∧
    (∀ loaded, load path (.file text.toUTF8) room = .ok loaded ↔
      (∀ c ∈ checks, c.Holds document) ∧ Describes document loaded.settings ∧
        loaded.path = some path) ∧
    (∀ failure, load path (.file text.toUTF8) room = .error failure ↔
      FirstFault room document checks failure) ∧
    ((∀ c ∈ checks, ∀ v ∈ c.subject? document, ¬ c.Accepts v → Quotable room v) →
      ∀ failure, load path (.file text.toUTF8) room = .error failure ↔
        ∃ e, failure = .refused e ∧ FirstFault room document checks (.refused e)) ∧
    ∀ text' document', room.reads text' → documentOf text' = .ok document' →
      Agree document document' →
        load path (.file text'.toUTF8) room = load path (.file text.toUTF8) room := by
  have hload := load_of_documentOf hpath hreads hdocument
  have herror : ∀ failure, load path (.file text.toUTF8) room = .error failure ↔
      FirstFault room document checks failure := by
    intro failure
    rw [hload, ← ofDocument_eq_error_iff]
    cases ofDocument room document <;> simp [Except.map]
  -- Each part says of `load` what is known of `ofDocument`.
  refine ⟨?_, fun loaded => ?_, herror, fun hquotable failure => ?_, ?_⟩
  · rw [hload, ← exists_ofDocument_iff room]
    cases ofDocument room document <;> simp [Except.map]
  · obtain ⟨settings, found⟩ := loaded
    have hok : ofDocument room document = .ok settings ↔ _ := ofDocument_eq_ok_iff
    rw [hload, ← and_assoc, ← hok]
    cases ofDocument room document <;> simp [Except.map, eq_comm]
  · rw [herror]
    constructor
    · intro hfault
      -- The check that fails rejects a value, which can be quoted.
      obtain ⟨c, hc, v, hv, hrejects⟩ := hfault.exists_rejects
      have hnot : ¬ c.Accepts v := fun haccepts =>
        (c.accepts_iff room v).mp haccepts failure hrejects
      obtain ⟨e, rfl⟩ := hrejects.exists_refused (hquotable c hc v hv hnot)
      exact ⟨e, rfl, hfault⟩
    · rintro ⟨e, rfl, hfault⟩
      exact hfault
  · intro text' document' hreads' hdocument' hagree
    rw [hload, load_of_documentOf hpath hreads' hdocument', ofDocument_congr room hagree]

/-- Three faults, of which the first in the order of the checks is told, a level with letters that
have no dots, and other entries beside the ones that are looked at. -/
theorem load_by_checks_three_faults :
    let path : FilePath := ⟨"", ["calcline.toml"]⟩
    let load (text : String) := load path (.file text.toUTF8)
    load "logging.level = 'loud'\noutput.show_ast = 1\noutput.precision = true\n" =
        .error (.refused (.invalidValue "output" "precision" "True")) ∧
      load "[logging]\nlevel = 'crıtıcal'\n" =
        .ok { settings := { level := .critical }, path := some path } ∧
      load "[logging]\nlevel = 'crıtıcal'\nfile = 'log'\n[repl]\n[x]\n" =
        load "[logging]\nlevel = 'crıtıcal'\n" := by
  intro path load
  have hfaults :
      documentOf "logging.level = 'loud'\noutput.show_ast = 1\noutput.precision = true\n" =
      .ok [("logging", .table [("level", .string "loud")]),
        ("output", .table [("show_ast", .integer 1), ("precision", .boolean true)])] := by cbv
  have hlevel : documentOf "[logging]\nlevel = 'crıtıcal'\n" =
      .ok [("logging", .table [("level", .string "crıtıcal")])] := by cbv
  have hbeside : documentOf "[logging]\nlevel = 'crıtıcal'\nfile = 'log'\n[repl]\n[x]\n" =
      .ok [("logging", .table [("level", .string "crıtıcal"), ("file", .string "log")]),
        ("repl", .table []), ("x", .table [])] := by cbv
  have hpath : path.holdsNull = false := by decide
  obtain ⟨_, _, herror, _⟩ := load_by_checks {} hpath rfl hfaults
  obtain ⟨_, hok, _, _, hagree⟩ := load_by_checks {} hpath rfl hlevel
  refine ⟨?_, ?_, ?_⟩
  · refine (herror _).mpr ?_
    -- The sections pass, the keys of the first one are absent, and so the number of places is told.
    refine .later (Check.holds_of_none rfl) (.later (Check.holds_of_some rfl ⟨_, rfl⟩) ?_)
    refine .later (Check.holds_of_some rfl ⟨_, rfl⟩) (.later (Check.holds_of_none rfl) ?_)
    refine .later (Check.holds_of_none rfl) (.here ⟨_, rfl, .kind ?_ (.refused rfl rfl)⟩)
    rintro ⟨n, ⟨⟩⟩
  · refine (hok _).mpr ⟨?_, ?_, rfl⟩
    · have hname : Text.uppercase "crıtıcal" = "CRITICAL" := by cbv
      simp [checks, Check.Holds, Check.subject?, Check.Accepts, Kind.Has, valueAt?, Entries.get?,
        List.lookup, hname]
    · exact {
        prompt := Or.inr ⟨rfl, rfl⟩
        history := Or.inr ⟨rfl, rfl⟩
        precision := rfl
        showTokens := Or.inr ⟨rfl, rfl⟩
        showAst := Or.inr ⟨rfl, rfl⟩
        level := ⟨"crıtıcal", Or.inl rfl, by cbv⟩ }
  · refine hagree _ _ rfl hbeside ⟨?_, ?_⟩
    · simp [keys, valueAt?, Entries.get?, List.lookup]
    · -- What stands in the place of a section is a table in both, or absent.
      intro name hname v hne
      have hnone : v ≠ .table [] := hne []
      rcases List.mem_cons.mp hname with rfl | hname
      · simp [Entries.get?, List.lookup, hnone.symm]
      rcases List.mem_cons.mp hname with rfl | hname
      · exact Iff.rfl
      · cases List.mem_singleton.mp hname
        simp [Entries.get?, List.lookup, (hne _).symm]

/-! ### Long numbers -/

/-- `load` refuses a hexadecimal prompt if it has at most `Number.maxDigits` decimal digits, with an
error that quotes it.  Otherwise it breaks off. -/
theorem load_hexadecimal {path : FilePath} (hpath : path.holdsNull = false) {ds : List Char}
    (hne : ds ≠ []) (hds : ∀ c ∈ ds, (Toml.hexDigit? c).isSome ∧ c ≠ '_') :
    load path (.file (promptText ('0' :: 'x' :: ds)).toUTF8) =
      .error (if Toml.ofDigits 16 ds < 10 ^ Number.maxDigits then
        .refused (.invalidValue "repl" "prompt" (toString (Toml.ofDigits 16 ds : Int)))
      else .broken .overlong) := by
  rw [load_of_documentOf hpath rfl (documentOf_hexadecimal hne hds), ← refusal_natCast]
  rfl

/-- `load` refuses a decimal prompt that has at most `Number.maxDigits` digits, with an error that
quotes it.  Otherwise it breaks off, as it does wherever such a number stands. -/
theorem load_decimal {path : FilePath} (hpath : path.holdsNull = false) {c : Char} {ds : List Char}
    (hc : c ≠ '0') (hds : ∀ d ∈ c :: ds, d.isDigit) :
    load path (.file (promptText (c :: ds)).toUTF8) =
      .error (if (c :: ds).length ≤ Number.maxDigits then
        .refused (.invalidValue "repl" "prompt" (toString (Toml.ofDigits 10 (c :: ds) : Int)))
      else .broken .overlong) := by
  have hdocument := documentOf_decimal hc hds
  rw [Toml.decimalInteger] at hdocument
  split at hdocument
  next hlength =>
    -- What is short enough to be read is short enough to be quoted.
    have hlt : Toml.ofDigits 10 (c :: ds) < 10 ^ Number.maxDigits :=
      (Toml.ofDigits_lt hds).trans_le (Nat.pow_le_pow_right (by decide) hlength)
    have hrefusal := refusal_natCast (Toml.ofDigits 10 (c :: ds)) (.invalidValue "repl" "prompt")
    rw [if_pos hlt] at hrefusal
    rw [load_of_documentOf hpath rfl hdocument, if_pos hlength, ← hrefusal]
    rfl
  next hlength =>
    rw [if_neg hlength, load_eq_error_iff]
    refine Or.inr ⟨hpath, ?_⟩
    rw [ofFound_toUTF8, ofText_eq_broken_iff]
    exact Or.inr ⟨rfl, Or.inl ⟨hdocument, rfl⟩⟩

/-- There are hexadecimal numbers of more than `Number.maxDigits` decimal digits. -/
theorem exists_long_hexadecimal : ∃ ds : List Char, ds ≠ [] ∧
    (∀ c ∈ ds, (Toml.hexDigit? c).isSome ∧ c ≠ '_') ∧
      10 ^ Number.maxDigits ≤ Toml.ofDigits 16 ds := by
  refine ⟨List.replicate (40 * 100) 'f', ?_, ?_, ?_⟩
  · rw [Ne, List.replicate_eq_nil_iff]
    decide
  · intro c hc
    obtain rfl := List.eq_of_mem_replicate hc
    decide
  · -- Four thousand digits hold more than four thousand three hundred decimal ones.
    have hmax : Number.maxDigits = 43 * 100 := rfl
    rw [hmax]
    exact Toml.pow_le_ofDigits_replicate (by decide)

/-- A document that fails a check is not always refused. -/
theorem not_forall_document_refused :
    ¬ ∀ (path : FilePath) text document failure, path.holdsNull = false →
      documentOf text = .ok document → load path (.file text.toUTF8) = .error failure →
        ∃ e, failure = .refused e := by
  intro h
  obtain ⟨ds, hne, hds, hlong⟩ := exists_long_hexadecimal
  have hpath : FilePath.holdsNull ⟨"", ["calcline.toml"]⟩ = false := by decide
  -- The number fails the check of the prompt and cannot be quoted.
  have hload := load_hexadecimal hpath hne hds
  rw [if_neg (Nat.not_lt.mpr hlong)] at hload
  obtain ⟨e, he⟩ := h _ _ _ _ hpath (documentOf_hexadecimal hne hds) hload
  cases he

end Settings

/-! ## Runs -/

/-- A character is in one of the pieces of `splitOn` if it was in the list and is not where that is
split. -/
theorem mem_splitOn_iff {c a : Char} (hne : c ≠ a) (cs : List Char) :
    (∃ piece ∈ cs.splitOn a, c ∈ piece) ↔ c ∈ cs := by
  induction cs with
  | nil => simp
  | cons d cs ih =>
    rw [List.splitOn_cons_eq_if_modifyHead, List.mem_cons, ← ih]
    split
    next heq =>
      obtain rfl : d = a := beq_iff_eq.mp heq
      simp [hne]
    next =>
      -- The character in front belongs to the first piece.
      cases hpieces : cs.splitOn a with
      | nil => exact absurd hpieces (List.splitOn_ne_nil a cs)
      | cons piece pieces => simp [or_assoc]

/-- The path of `ofString` holds a null character if its text does. -/
theorem FilePath.holdsNull_ofString_iff (path : String) :
    (ofString path).holdsNull ↔ '\x00' ∈ path.toList := by
  rw [← mem_splitOn_iff (by decide : '\x00' ≠ '/')]
  simp only [holdsNull, ofString, List.any_eq_true, List.mem_filter, List.mem_map]
  constructor
  · rintro ⟨_, ⟨⟨piece, hpiece, rfl⟩, _⟩, hnull⟩
    exact ⟨piece, hpiece, by simpa using hnull⟩
  · rintro ⟨piece, hpiece, hnull⟩
    -- A piece with such a character is no name that is left out.
    have hne : ∀ name : String, '\x00' ∉ name.toList → String.ofList piece ≠ name := by
      rintro _ hnot rfl
      exact hnot (by simpa using hnull)
    refine ⟨_, ⟨⟨piece, hpiece, rfl⟩, ?_⟩, by simpa using hnull⟩
    simp [hne "" (by decide), hne "." (by decide)]

namespace Command

/-- The settings file is looked into: it is named among the options, or the customary one is there.
-/
def Global.Reads (globals : List Global) (found : Found) : Prop :=
  (namedPath? globals).isSome ∨ ∃ bytes, found = .file bytes

/-- The customary path holds no null character. -/
theorem holdsNull_fileName : (FilePath.ofString Settings.fileName).holdsNull = false := by
  rw [← Bool.not_eq_true, FilePath.holdsNull_ofString_iff]
  decide

/-- `loadSettings` fails as `load` does for the settings file that is looked into. -/
theorem Global.loadSettings_of_load_error {room : Room} {globals : List Global} {found : Found}
    (hreads : Reads globals found) {failure : LoadFailure}
    (h : Settings.load (settingsPath globals) found room = .error failure) :
    loadSettings found globals room = .error failure := by
  rw [loadSettings]
  -- A file that is named is loaded whether it is there or not.
  by_cases hnamed : (namedPath? globals).isSome
  · simp only [if_pos hnamed, h]
    rfl
  · -- The customary file is there, so that it is not passed over.
    obtain ⟨bytes, rfl⟩ := hreads.resolve_left hnamed
    have hpath : (settingsPath globals).holdsNull = false := by
      rw [settingsPath, Option.not_isSome_iff_eq_none.mp hnamed]
      exact holdsNull_fileName
    have hpresent : Settings.loadIfPresent (settingsPath globals) (.file bytes) room =
        .error failure := by
      rw [Settings.loadIfPresent, if_neg (by simp [hpath]), h]
    simp only [if_neg hnamed, hpresent]
    rfl

variable {room : Room} {look : FilePath → Found} {args rest : List String} {globals : List Global}
  {name : Command}

/-- The end of a `run` whose settings cannot be loaded, whatever its command and its input. -/
theorem run_of_load_error (hcall : Call.ofArgs args = .ok (.command globals name rest))
    (hreads : Global.Reads globals (look (Global.settingsPath globals))) {failure : LoadFailure}
    (h : Settings.load (Global.settingsPath globals) (look (Global.settingsPath globals)) room =
      .error failure) (input : String) :
    run look input args room = .ofLoadFailure failure := by
  have hsettings := Global.loadSettings_of_load_error hreads h
  -- The plan ends before the command is looked at.
  have hplan : plan look args room = .error (.ofLoadFailure failure) := by
    rw [plan, hcall]
    simp only [Except.mapError, bind, Except.bind, hsettings]
  rw [run, hplan]

/-- Whatever is found at a path, `Settings.load` admits it, or refuses it and `run` reports this and
ends with code 2, unless there is a null character in the path or what is found `Breaks` off the
loading: then `run` breaks off as well, and nothing is printed. -/
theorem load_answered (room : Room) (look : FilePath → Found) (path : FilePath) :
    (∀ o, Settings.load path (look path) room = .error (.broken o) ↔
      path.holdsNull ∧ o = .nullInPath ∨
        path.holdsNull = false ∧ Settings.Breaks room (look path) o) ∧
    ((∀ o, Settings.load path (look path) room ≠ .error (.broken o)) →
      (∃ loaded, Settings.load path (look path) room = .ok loaded ∧ loaded.Admitted path) ∨
      ∃ e, Settings.load path (look path) room = .error (.refused e) ∧
        Settings.Refuses room path (look path) e) ∧
    ∀ (input : String) (args rest : List String) (globals : List Global) (name : Command),
      Call.ofArgs args = .ok (.command globals name rest) → Global.settingsPath globals = path →
      Global.Reads globals (look path) →
      (∀ e, Settings.load path (look path) room = .error (.refused e) →
        run look input args room = { code := 2, prints := [.report { error := .config e }] }) ∧
      (∀ o, Settings.load path (look path) room = .error (.broken o) →
        run look input args room = { code := 1, breakdown := some (.settings o) }) := by
  refine ⟨fun o => Settings.load_eq_broken_iff, fun hne => ?_, ?_⟩
  · cases hload : Settings.load path (look path) room with
    | ok loaded => exact Or.inl ⟨loaded, rfl, Settings.admitted_of_load hload⟩
    | error failure =>
      cases failure with
      | refused e => exact Or.inr ⟨e, rfl, (Settings.load_eq_refused_iff.mp hload).2⟩
      | broken o => exact absurd hload (hne o)
  · rintro input args rest globals name hcall rfl hreads
    exact ⟨fun e he => run_of_load_error hcall hreads he input,
      fun o ho => run_of_load_error hcall hreads ho input⟩

/-- A single byte that encodes no text. -/
theorem toUTF8_ne_stray_byte (text : String) : text.toUTF8 ≠ ⟨#[0xff]⟩ := by
  have hnone : String.fromUTF8? ⟨#[0xff]⟩ = none := dif_neg (by decide)
  intro h
  rw [Settings.fromUTF8?_eq_some_iff.mpr h] at hnone
  cases hnone

/-- A directory in the place of a settings file that an option names, and a settings file that
encodes no text. -/
theorem load_answered_stray_byte :
    run (fun _ => .directory) "" ["-c", "d", "eval", "1"] =
        { code := 2, prints := [.report { error := .config (.unreadable "d" .directory) }] } ∧
      run (fun _ => .file ⟨#[0xff]⟩) "" ["eval", "1"] =
        { code := 1, breakdown := some (.settings .undecodable) } := by
  obtain ⟨_, _, hdirectory⟩ := load_answered {} (fun _ => .directory) (.ofString "d")
  obtain ⟨hstray, _, hbyte⟩ :=
    load_answered {} (fun _ => .file ⟨#[0xff]⟩) (.ofString Settings.fileName)
  have hcall : Call.ofArgs ["-c", "d", "eval", "1"] = .ok (.command [.config "d"] .eval ["1"]) := by
    cbv
  have hcall' : Call.ofArgs ["eval", "1"] = .ok (.command [] .eval ["1"]) := by cbv
  have hpath : (FilePath.ofString "d").holdsNull = false := by
    rw [← Bool.not_eq_true, FilePath.holdsNull_ofString_iff]
    decide
  -- What stands at the path decides, and no room is needed.
  have hrefused : Settings.Refuses {} (.ofString "d") .directory
      (.unreadable (FilePath.ofString "d").toString .directory) := .directory
  have htext : (FilePath.ofString "d").toString = "d" := by cbv
  rw [htext] at hrefused
  constructor
  · exact (hdirectory "" _ _ _ _ hcall rfl (Or.inl rfl)).1 _
      (Settings.load_eq_refused_iff.mpr ⟨hpath, hrefused⟩)
  · exact (hbyte "" _ _ _ _ hcall' rfl (Or.inr ⟨_, rfl⟩)).2 _
      ((hstray _).mpr (Or.inr ⟨holdsNull_fileName, .undecodable toUTF8_ne_stray_byte⟩))

/-- A bad settings file is not always refused, or answered with a report. -/
theorem not_forall_refused :
    (¬ ∀ path found failure, Settings.load path found = .error failure →
      ∃ e, failure = .refused e) ∧
    ¬ ∀ look, (run look "" ["eval", "1"]).breakdown = none := by
  have hload : Settings.load (.ofString Settings.fileName) (.file ⟨#[0xff]⟩) =
      .error (.broken .undecodable) :=
    Settings.load_eq_broken_iff.mpr
      (Or.inr ⟨holdsNull_fileName, .undecodable toUTF8_ne_stray_byte⟩)
  constructor
  · intro h
    obtain ⟨e, he⟩ := h _ _ _ hload
    cases he
  · intro h
    have hcall : Call.ofArgs ["eval", "1"] = .ok (.command [] .eval ["1"]) := by cbv
    have hrun : run (fun _ => .file ⟨#[0xff]⟩) "" ["eval", "1"] =
        .ofLoadFailure (.broken .undecodable) := by
      refine run_of_load_error hcall (Or.inr ⟨_, rfl⟩) ?_ ""
      exact hload
    have hnone := h fun _ => .file ⟨#[0xff]⟩
    rw [hrun] at hnone
    cases hnone

end Command

end Reckoner
