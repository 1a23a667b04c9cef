import Reckoner.Proofs.Checks

/-!
# The settings in a document

`Settings.ofDocument` takes settings from a document by checks in a fixed order: the shape of each
section comes first, and behind it the values one by one.  A document that passes all of them gives
its settings; nothing else in it matters.

Each reader of a section or a value is shown to make one of the checks (`Makes`), and what it reads
to be what the document says (`IsSet`); `ofDocument` then makes the checks of its readers, one
behind the other.

## Key results

- `makes_ofDocument`: the checks that `ofDocument` makes
- `ofDocument_eq_ok_iff`, `ofDocument_eq_error_iff`: what comes of a document
- `ofDocument_congr`: what this does not depend on
-/

namespace Reckoner

/-! ## Names of levels -/

namespace LogLevel

/-- `ofName?` finds the level whose `name` is asked for. -/
theorem ofName?_eq_some_iff (upper : String) (level : LogLevel) :
    ofName? upper = some level ↔ level.name = upper := by
  constructor
  · intro h
    simpa using List.find?_some h
  · rintro rfl
    cases level <;> decide

/-- Different levels have different names: `ofName?` finds each by its `name`. -/
theorem name_injective : Function.Injective name := by
  intro a b h
  -- One name is looked up for both, and one level is found.
  have ha := (ofName?_eq_some_iff b.name a).mpr h
  rw [(ofName?_eq_some_iff b.name b).mpr rfl] at ha
  exact (Option.some.inj ha).symm

/-- `ofName?` finds nothing for other texts than the five names. -/
theorem ofName?_eq_none_iff (upper : String) :
    ofName? upper = none ↔ upper ∉ ["DEBUG", "INFO", "WARNING", "ERROR", "CRITICAL"] := by
  have hnames : ["DEBUG", "INFO", "WARNING", "ERROR", "CRITICAL"] = all.map name := rfl
  rw [hnames, ofName?, List.find?_eq_none, List.mem_map]
  simp

end LogLevel

namespace Settings

open Toml (Value Entries)

/-! ## Readers -/

section Readers

variable {room : Room} {document entries : Entries} {name : String}

/-- `sectionOf` checks that a section is a table. -/
theorem makes_sectionOf (room : Room) (document : Entries) (name : String) :
    Makes room document [.table name] (sectionOf room document name) := by
  unfold sectionOf
  cases hv : document.get? name with
  | none =>
    show Makes room document [.table name] (.ok [])
    exact makes_ok_of_none hv
  | some v =>
    cases v with
    | table entries =>
      show Makes room document [.table name] (.ok entries)
      exact makes_ok_of_accepts hv ⟨entries, rfl⟩
    -- Whatever else stands there is told by `refusal`.
    | _ => exact makes_error ⟨_, hv, .table nofun (told_iff.mpr rfl)⟩

/-- In a section that `sectionOf` has read, `get?` finds what `valueAt?` finds in the document. -/
theorem get?_of_sectionOf (h : sectionOf room document name = .ok entries) (key : String) :
    entries.get? key = valueAt? document name key := by
  unfold sectionOf at h
  unfold valueAt?
  cases hv : document.get? name with
  | none =>
    rw [hv] at h
    cases h
    rfl
  | some v =>
    rw [hv] at h
    cases v <;> cases h
    rfl

end Readers

/-! ### Values -/

/-- The value of a key as a member of a type, if there is a value and it is of the right kind. -/
def readAs {α : Type} (room : Room) (unwrap? : Value → Option α) (document : Entries)
    (name key : String) : Except LoadFailure (Option α) :=
  match valueAt? document name key with
  | none => .ok none
  | some v =>
    match unwrap? v with
    | some a => .ok (some a)
    | none => .error (refusal room v (.invalidValue name key))

/-- What is set by the value of a key: the value that is given, or the default if none is. -/
def IsSet {α : Type} (given : Option Value) (wrap : α → Value) (default a : α) : Prop :=
  given = some (wrap a) ∨ given = none ∧ a = default

/-- One value at most `IsSet`, if `wrap` tells values apart. -/
theorem IsSet.unique {α : Type} {given : Option Value} {wrap : α → Value} {default a b : α}
    (hwrap : Function.Injective wrap) (ha : IsSet given wrap default a)
    (hb : IsSet given wrap default b) : a = b := by
  -- A value cannot both be given and be absent.
  rcases ha with ha | ⟨ha, rfl⟩ <;> rcases hb with hb | ⟨hb, rfl⟩
  · exact hwrap (Option.some.inj (ha.symm.trans hb))
  · cases ha.symm.trans hb
  · cases ha.symm.trans hb
  · rfl

section ReadAs

variable {room : Room} {α : Type} {unwrap? : Value → Option α} {wrap : α → Value}
  (hread : ∀ v a, unwrap? v = some a ↔ v = wrap a) {document : Entries} {name key : String}
include hread

/-- `readAs` checks that a value is of the kind that it is read as. -/
theorem makes_readAs {k : Kind} (hkind : ∀ v, k.Has v ↔ ∃ a, v = wrap a) :
    Makes room document [.kind k name key] (readAs room unwrap? document name key) := by
  unfold readAs
  cases hv : valueAt? document name key with
  | none =>
    show Makes room document [.kind k name key] (.ok none)
    exact makes_ok_of_none hv
  | some v =>
    -- A value is unwrapped if and only if it is of the kind.
    cases ha : unwrap? v with
    | some a =>
      have haccepts : (Check.kind k name key).Accepts v := (hkind v).mpr ⟨a, (hread v a).mp ha⟩
      simp only [ha]
      exact makes_ok_of_accepts hv haccepts
    | none =>
      have hnot : ¬ k.Has v := by
        intro hhas
        obtain ⟨a, rfl⟩ := (hkind v).mp hhas
        rw [(hread _ a).mpr rfl] at ha
        cases ha
      simp only [ha]
      exact makes_error ⟨v, hv, .kind hnot (told_iff.mpr rfl)⟩

/-- What `readAs` reads is the value of the key. -/
theorem valueAt?_of_readAs {given : Option α}
    (h : readAs room unwrap? document name key = .ok given) :
    valueAt? document name key = given.map wrap := by
  unfold readAs at h
  cases hv : valueAt? document name key with
  | none =>
    rw [hv] at h
    cases h
    rfl
  | some v =>
    rw [hv] at h
    -- What has been unwrapped is what was wrapped.
    cases ha : unwrap? v with
    | some a =>
      simp only [ha] at h
      cases h
      exact congrArg some ((hread v a).mp ha)
    | none =>
      simp only [ha] at h
      cases h

/-- What `readAs` reads, or the default in the place of nothing, `IsSet` by the value of the key. -/
theorem isSet_of_readAs {default a : α}
    (h : (readAs room unwrap? document name key).map (·.getD default) = .ok a) :
    IsSet (valueAt? document name key) wrap default a := by
  cases hgiven : readAs room unwrap? document name key with
  | error e =>
    rw [hgiven] at h
    cases h
  | ok given =>
    rw [hgiven] at h
    have hentry := valueAt?_of_readAs hread hgiven
    -- Without a value it is the default that counts.
    cases given with
    | none =>
      cases h
      exact Or.inr ⟨hentry, rfl⟩
    | some a' =>
      cases h
      exact Or.inl hentry

end ReadAs

/-- The text that a value is. -/
def text? : Value → Option String
  | .string s => some s
  | _ => none

/-- The truth value that a value is. -/
def flag? : Value → Option Bool
  | .boolean b => some b
  | _ => none

/-- The whole number that a value is. -/
def whole? : Value → Option Int
  | .integer n => some n
  | _ => none

/-- `text?` unwraps a `Value.string`. -/
theorem text?_eq_some_iff (v : Value) (s : String) : text? v = some s ↔ v = .string s := by
  cases v <;> simp [text?]

/-- `flag?` unwraps a `Value.boolean`. -/
theorem flag?_eq_some_iff (v : Value) (b : Bool) : flag? v = some b ↔ v = .boolean b := by
  cases v <;> simp [flag?]

/-- `whole?` unwraps a `Value.integer`. -/
theorem whole?_eq_some_iff (v : Value) (n : Int) : whole? v = some n ↔ v = .integer n := by
  cases v <;> simp [whole?]

section Values

variable {room : Room} {document entries : Entries} {name : String}
  (h : sectionOf room document name = .ok entries) (key : String)
include h

/-- `textOf` is `readAs text?` with a default. -/
theorem textOf_eq_map (default : String) :
    textOf room name entries key default =
      (readAs room text? document name key).map (·.getD default) := by
  unfold textOf readAs
  rw [get?_of_sectionOf h]
  cases valueAt? document name key with
  | none => rfl
  | some v => cases v <;> rfl

/-- `flagOf` is `readAs flag?` with a default. -/
theorem flagOf_eq_map (default : Bool) :
    flagOf room name entries key default =
      (readAs room flag? document name key).map (·.getD default) := by
  unfold flagOf readAs
  rw [get?_of_sectionOf h]
  cases valueAt? document name key with
  | none => rfl
  | some v => cases v <;> rfl

/-- `placesOf` is `readAs whole?` with a look at the sign behind it. -/
theorem placesOf_eq_bind :
    placesOf room name entries key =
      (readAs room whole? document name key).bind fun
        | some n =>
          if n < 0 then .error (refusal room (.integer n) .negativePrecision) else .ok (some n)
        | none => .ok none := by
  unfold placesOf readAs
  rw [get?_of_sectionOf h]
  cases valueAt? document name key with
  | none => rfl
  | some v => cases v <;> rfl

/-- `textOf` checks that a value is a text. -/
theorem makes_textOf (default : String) :
    Makes room document [.kind .text name key] (textOf room name entries key default) := by
  rw [textOf_eq_map h]
  exact (makes_readAs text?_eq_some_iff fun _ => Iff.rfl).map _

/-- `flagOf` checks that a value is a truth value. -/
theorem makes_flagOf (default : Bool) :
    Makes room document [.kind .flag name key] (flagOf room name entries key default) := by
  rw [flagOf_eq_map h]
  exact (makes_readAs flag?_eq_some_iff fun _ => Iff.rfl).map _

/-- What `textOf` reads is the text of the document, or the default. -/
theorem isSet_of_textOf {default s : String}
    (hs : textOf room name entries key default = .ok s) :
    IsSet (valueAt? document name key) .string default s := by
  rw [textOf_eq_map h] at hs
  exact isSet_of_readAs text?_eq_some_iff hs

/-- What `flagOf` reads is the truth value of the document, or the default. -/
theorem isSet_of_flagOf {default b : Bool}
    (hb : flagOf room name entries key default = .ok b) :
    IsSet (valueAt? document name key) .boolean default b := by
  rw [flagOf_eq_map h] at hb
  exact isSet_of_readAs flag?_eq_some_iff hb

/-- `placesOf` makes two checks: a value is a whole number, and it is not negative. -/
theorem makes_placesOf :
    Makes room document [.kind .whole name key, .sign name key]
      (placesOf room name entries key) := by
  rw [placesOf_eq_bind h]
  refine Makes.bind (makes_readAs whole?_eq_some_iff fun _ => Iff.rfl) fun given hgiven => ?_
  have hentry := valueAt?_of_readAs whole?_eq_some_iff hgiven
  -- The sign is looked at only of a number that is there.
  cases given with
  | none => exact makes_ok_of_none hentry
  | some n =>
    show Makes room document [.sign name key] (if n < 0 then _ else _)
    split
    · exact makes_error ⟨_, hentry, .sign ‹n < 0› (told_iff.mpr rfl)⟩
    · -- The number is the one that has just been compared.
      have haccepts : (Check.sign name key).Accepts (.integer n) := by
        rintro _ ⟨⟩
        omega
      exact makes_ok_of_accepts hentry haccepts

/-- What `placesOf` reads is the number of the document. -/
theorem valueAt?_of_placesOf {places : Option Int}
    (hplaces : placesOf room name entries key = .ok places) :
    valueAt? document name key = places.map .integer := by
  rw [placesOf_eq_bind h] at hplaces
  obtain ⟨given, hgiven, hsign⟩ := bind_eq_ok_iff.mp hplaces
  have hentry := valueAt?_of_readAs whole?_eq_some_iff hgiven
  cases given with
  | none =>
    cases hsign
    exact hentry
  | some n =>
    simp only at hsign
    split at hsign <;> cases hsign
    exact hentry

end Values

/-- `LogLevel.check` checks that a text names a level.  The default does, so that only a text from
the document can fail. -/
theorem makes_check {room : Room} {document : Entries} {name key s : String}
    (hs : IsSet (valueAt? document name key) .string LogLevel.warning.name s) :
    Makes room document [.level name key] ((LogLevel.check s).mapError .refused) := by
  unfold LogLevel.check
  cases hlevel : LogLevel.ofName? (Text.uppercase s) with
  | some level =>
    show Makes room document [.level name key] (.ok level)
    -- A level that is found is one that the document names, or the default.
    rcases hs with hv | ⟨hv, _⟩
    · have haccepts : (Check.level name key).Accepts (.string s) := by
        rintro _ ⟨⟩
        by_contra hnone
        rw [(LogLevel.ofName?_eq_none_iff _).mpr hnone] at hlevel
        cases hlevel
      exact makes_ok_of_accepts hv haccepts
    · exact makes_ok_of_none hv
  | none =>
    rcases hs with hv | ⟨_, rfl⟩
    · exact makes_error ⟨_, hv, .level ((LogLevel.ofName?_eq_none_iff _).mp hlevel)⟩
    · -- The default is found, and so it cannot be what fails.
      have hwarning : LogLevel.ofName? (Text.uppercase LogLevel.warning.name) = some .warning := by
        cbv
      rw [hwarning] at hlevel
      cases hlevel

/-- The level of `LogLevel.check` has the given name, in upper case. -/
theorem name_of_check {s : String} {level : LogLevel}
    (h : (LogLevel.check s).mapError LoadFailure.refused = .ok level) :
    level.name = Text.uppercase s := by
  unfold LogLevel.check at h
  cases hlevel : LogLevel.ofName? (Text.uppercase s) with
  | some found =>
    rw [hlevel] at h
    cases h
    exact (LogLevel.ofName?_eq_some_iff _ _).mp hlevel
  | none =>
    rw [hlevel] at h
    cases h

/-! ## Documents -/

/-- The checks of a document, in order. -/
def checks : List Check :=
  [.table "repl", .table "output", .table "logging",
    .kind .text "repl" "prompt", .kind .flag "repl" "history",
    .kind .whole "output" "precision", .sign "output" "precision",
    .kind .flag "output" "show_tokens", .kind .flag "output" "show_ast",
    .kind .text "logging" "level", .level "logging" "level"]

/-- Where settings come from: a value of the document, or the default for one that is absent. -/
structure Describes (document : Entries) (settings : Settings) : Prop where
  prompt : IsSet (valueAt? document "repl" "prompt") .string "> " settings.prompt
  history : IsSet (valueAt? document "repl" "history") .boolean true settings.history
  /-- There is no number of places by default. -/
  precision : valueAt? document "output" "precision" = settings.output.precision.map .integer
  showTokens : IsSet (valueAt? document "output" "show_tokens") .boolean false
    settings.output.showTokens
  showAst : IsSet (valueAt? document "output" "show_ast") .boolean false settings.output.showAst
  /-- A level is given by its name, in lower or upper case. -/
  level : ∃ name, IsSet (valueAt? document "logging" "level") .string "WARNING" name ∧
    settings.level.name = Text.uppercase name

section Documents

variable {room : Room} {document : Entries} {settings : Settings}

/-- `ofDocument` makes `checks`, in their order. -/
theorem makes_ofDocument (room : Room) (document : Entries) :
    Makes room document checks (ofDocument room document) := by
  unfold checks
  -- The list of checks comes apart as the readers of `ofDocument` follow one another.
  refine (makes_sectionOf room document "repl").bind fun repl hrepl => ?_
  refine (makes_sectionOf room document "output").bind fun output houtput => ?_
  refine (makes_sectionOf room document "logging").bind fun logging hlogging => ?_
  refine (makes_textOf hrepl "prompt" "> ").bind fun _ _ => ?_
  refine (makes_flagOf hrepl "history" true).bind fun _ _ => ?_
  refine (makes_placesOf houtput "precision").bind fun _ _ => ?_
  refine (makes_flagOf houtput "show_tokens" false).bind fun _ _ => ?_
  refine (makes_flagOf houtput "show_ast" false).bind fun _ _ => ?_
  refine (makes_textOf hlogging "level" LogLevel.warning.name).bind fun name hname => ?_
  refine (makes_check (isSet_of_textOf hlogging "level" hname)).bind fun _ _ => ?_
  exact makes_ok (List.forall_mem_nil _)

/-- A document describes the settings that `ofDocument` takes from it. -/
theorem describes_of_ofDocument (h : ofDocument room document = .ok settings) :
    Describes document settings := by
  -- Each reader has succeeded, since the settings were reached.
  obtain ⟨repl, hrepl, h⟩ := bind_eq_ok_iff.mp h
  obtain ⟨output, houtput, h⟩ := bind_eq_ok_iff.mp h
  obtain ⟨logging, hlogging, h⟩ := bind_eq_ok_iff.mp h
  obtain ⟨_, hprompt, h⟩ := bind_eq_ok_iff.mp h
  obtain ⟨_, hhistory, h⟩ := bind_eq_ok_iff.mp h
  obtain ⟨_, hprecision, h⟩ := bind_eq_ok_iff.mp h
  obtain ⟨_, hshowTokens, h⟩ := bind_eq_ok_iff.mp h
  obtain ⟨_, hshowAst, h⟩ := bind_eq_ok_iff.mp h
  obtain ⟨name, hname, h⟩ := bind_eq_ok_iff.mp h
  obtain ⟨_, hlevel, h⟩ := bind_eq_ok_iff.mp h
  cases h
  exact {
    prompt := isSet_of_textOf hrepl "prompt" hprompt
    history := isSet_of_flagOf hrepl "history" hhistory
    precision := valueAt?_of_placesOf houtput "precision" hprecision
    showTokens := isSet_of_flagOf houtput "show_tokens" hshowTokens
    showAst := isSet_of_flagOf houtput "show_ast" hshowAst
    level := ⟨name, isSet_of_textOf hlogging "level" hname, name_of_check hlevel⟩ }

/-- `ofDocument` fails for what is wrong with the first of `checks` that fails. -/
theorem ofDocument_eq_error_iff (e : LoadFailure) :
    ofDocument room document = .error e ↔ FirstFault room document checks e :=
  (makes_ofDocument room document).error_iff e

/-- `ofDocument` takes settings from the documents that pass `checks`, and from no others. -/
theorem exists_ofDocument_iff (room : Room) (document : Entries) :
    (∃ settings, ofDocument room document = .ok settings) ↔ ∀ c ∈ checks, c.Holds document :=
  (makes_ofDocument room document).exists_ok_iff

/-- A document `Describes` one collection of settings at most. -/
theorem Describes.unique {settings' : Settings} (h : Describes document settings)
    (h' : Describes document settings') : settings = settings' := by
  have hstring : Function.Injective Value.string := fun _ _ => Value.string.inj
  have hboolean : Function.Injective Value.boolean := fun _ _ => Value.boolean.inj
  have hinteger : Function.Injective Value.integer := fun _ _ => Value.integer.inj
  have hprompt := h.prompt.unique hstring h'.prompt
  have hhistory := h.history.unique hboolean h'.history
  have hprecision := Option.map_injective hinteger (h.precision.symm.trans h'.precision)
  have hshowTokens := h.showTokens.unique hboolean h'.showTokens
  have hshowAst := h.showAst.unique hboolean h'.showAst
  -- A level is given by its name, which it shares with no other.
  have hlevel : settings.level = settings'.level := by
    obtain ⟨name, hname, hlevel⟩ := h.level
    obtain ⟨name', hname', hlevel'⟩ := h'.level
    obtain rfl := hname.unique hstring hname'
    exact LogLevel.name_injective (hlevel.trans hlevel'.symm)
  obtain ⟨_, _, ⟨_, _, _⟩, _⟩ := settings
  obtain ⟨_, _, ⟨_, _, _⟩, _⟩ := settings'
  simp only at hprompt hhistory hprecision hshowTokens hshowAst hlevel
  rw [hprompt, hhistory, hprecision, hshowTokens, hshowAst, hlevel]

/-- `ofDocument` takes from a document that passes `checks` the settings that it describes. -/
theorem ofDocument_eq_ok_iff :
    ofDocument room document = .ok settings ↔
      (∀ c ∈ checks, c.Holds document) ∧ Describes document settings := by
  constructor
  · intro h
    exact ⟨(exists_ofDocument_iff room document).mp ⟨settings, h⟩, describes_of_ofDocument h⟩
  · rintro ⟨hholds, hdescribes⟩
    obtain ⟨settings', h⟩ := (exists_ofDocument_iff room document).mpr hholds
    rw [h, hdescribes.unique (describes_of_ofDocument h)]

/-! ### What is not looked at -/

/-- The keys whose values are looked at, with their sections. -/
def keys : List (String × String) :=
  [("repl", "prompt"), ("repl", "history"), ("output", "precision"), ("output", "show_tokens"),
    ("output", "show_ast"), ("logging", "level")]

/-- The key that a check looks at, with its section, unless it looks at the section itself. -/
def Check.key? : Check → Option (String × String)
  | table _ => none
  | kind _ name key | sign name key | level name key => some (name, key)

/-- The keys that `checks` look at are among `keys`. -/
theorem mem_keys_of_mem_checks : ∀ c ∈ checks, ∀ p ∈ c.key?, p ∈ keys := by decide

/-- Documents agree in what is looked at: the values of the keys, and whatever stands in the place
of a section and is no table. -/
structure Agree (document other : Entries) : Prop where
  entry : ∀ p ∈ keys, valueAt? document p.1 p.2 = valueAt? other p.1 p.2
  noTable : ∀ name ∈ ["repl", "output", "logging"], ∀ v : Value, (∀ entries, v ≠ .table entries) →
    (document.get? name = some v ↔ other.get? name = some v)

variable {other : Entries}

/-- Documents `Agree` in either order. -/
theorem Agree.symm (h : Agree document other) : Agree other document where
  entry p hp := (h.entry p hp).symm
  noTable name hname v hv := (h.noTable name hname v hv).symm

/-- Of documents that `Agree`, both fail a check in the same way if one does. -/
theorem Agree.fails (h : Agree document other) {c : Check} (hc : c ∈ checks) {e : LoadFailure}
    (hfails : c.Fails room document e) : c.Fails room other e := by
  obtain ⟨v, hv, hr⟩ := hfails
  refine ⟨v, ?_, hr⟩
  -- A section that fails is no table, and a value that fails is one of a key.
  cases hr with
  | table hne _ =>
    refine (h.noTable _ ?_ _ hne).mp hv
    simpa [checks] using hc
  | kind _ _ | sign _ _ | level _ =>
    exact (h.entry _ (mem_keys_of_mem_checks _ hc _ rfl)).symm.trans hv

/-- Of documents that `Agree`, both pass a check if one does. -/
theorem Agree.holds (h : Agree document other) {c : Check} (hc : c ∈ checks)
    (hholds : c.Holds document) : c.Holds other := by
  rw [Check.holds_iff {}] at hholds ⊢
  exact fun e he => hholds e (h.symm.fails hc he)

/-- Documents that `Agree` have the same `FirstFault`. -/
theorem Agree.firstFault (h : Agree document other) {cs : List Check} (hcs : ∀ c ∈ cs, c ∈ checks)
    {e : LoadFailure} (hfault : FirstFault room document cs e) : FirstFault room other cs e := by
  -- On the fault: the checks in front of it pass for both documents.
  induction hfault with
  | here hc => exact .here (h.fails (hcs _ List.mem_cons_self) hc)
  | later hc _ ih =>
    obtain ⟨hmem, hcs⟩ := List.forall_mem_cons.mp hcs
    exact .later (h.holds hmem hc) (ih hcs)

/-- Documents that `Agree` describe the same settings. -/
theorem Agree.describes (h : Agree document other) (hdescribes : Describes document settings) :
    Describes other settings := by
  obtain ⟨entry, _⟩ := h
  -- The keys one by one, in the order of `keys`.
  simp only [keys, List.forall_mem_cons] at entry
  obtain ⟨hprompt, hhistory, hprecision, hshowTokens, hshowAst, hlevel, _⟩ := entry
  exact {
    prompt := hprompt ▸ hdescribes.prompt
    history := hhistory ▸ hdescribes.history
    precision := hprecision ▸ hdescribes.precision
    showTokens := hshowTokens ▸ hdescribes.showTokens
    showAst := hshowAst ▸ hdescribes.showAst
    level := hlevel ▸ hdescribes.level }

/-- `ofDocument` comes to the same for documents that agree in what is looked at. -/
theorem ofDocument_congr (room : Room) (h : Agree document other) :
    ofDocument room document = ofDocument room other := by
  -- Faults and settings are both those of what is looked at.
  cases hdocument : ofDocument room document with
  | error e =>
    have hfault := (ofDocument_eq_error_iff e).mp hdocument
    exact ((ofDocument_eq_error_iff e).mpr (h.firstFault (fun _ hc => hc) hfault)).symm
  | ok settings =>
    obtain ⟨hholds, hdescribes⟩ := ofDocument_eq_ok_iff.mp hdocument
    have hholds' : ∀ c ∈ checks, c.Holds other := fun c hc => h.holds hc (hholds c hc)
    exact (ofDocument_eq_ok_iff.mpr ⟨hholds', h.describes hdescribes⟩).symm

end Documents

end Settings

end Reckoner
