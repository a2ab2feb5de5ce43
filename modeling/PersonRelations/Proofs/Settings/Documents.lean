import PersonRelations.Proofs.Toml.WellFormed
import PersonRelations.Settings.File

/-!
# What a settings file sets

A settings file is a document with four sections, of which any may be missing, and six keys, of
which any may be missing. `Settings.Key` lists them, and everything is said of a key at a time:
where it stands (`Settings.Key.given?`), what type its value has to have (`Settings.Key.HasType`),
and what it is for settings to have it as given (`Settings.Key.GivenAs`).

* `Settings.ofDocument?_eq_some_iff`: a document is read as the settings that have each key as the
  document gives it, or as the default if it does not.
* `Settings.exists_givenBy_iff`: there are such settings if and only if each key that is there has
  its type. This rests on integers being of 64 bits.
* `Settings.given?_eq_of_rearranged`: the keys are given alike in every order. This rests on no
  table having a key twice.
* `settings_of_document`: what this comes to for files.
-/

namespace PersonRelations

namespace Toml

/-- The two values are alike, or are tables with the same members in another order. -/
def Value.Rearranged (v v' : Value) : Prop :=
  v = v' ∨ ∃ members members' : List (String × Value),
    v = .table members ∧ v' = .table members' ∧ members.Perm members'

/-- The documents have the same sections in another order, with the keys of each in another
order. -/
def Rearranged (members members' : List (String × Value)) : Prop :=
  ∃ sorted, members.Perm sorted ∧
    List.Forall₂ (fun m m' ↦ m.1 = m'.1 ∧ m.2.Rearranged m'.2) sorted members'

end Toml

/-- Reading from the path gives the bytes of the text. -/
def FileTree.ReadsAs (t : FileTree) (p : Path) (text : String) : Prop :=
  (t.openRead p >>= Entry.read) = .ok text.toUTF8

namespace Settings

open Toml (Value)

/-- A setting that a file can give. -/
inductive Key where
  | dir
  | createDir
  | prefixes
  | interval
  | level
  | json
  deriving DecidableEq, Repr

namespace Key

instance fintype : Fintype Key :=
  ⟨{dir, createDir, prefixes, interval, level, json}, fun k ↦ by cases k <;> decide⟩

/-- The section in which the key stands. -/
def header : Key → String
  | dir | createDir => "output"
  | prefixes => "parser"
  | interval => "pipeline"
  | level | json => "logging"

/-- The key as it is spelled. -/
def name : Key → String
  | dir => "dir"
  | createDir => "create_dir"
  | prefixes => "strip_prefixes"
  | interval => "progress_interval"
  | level => "level"
  | json => "json_format"

/-- The value of the key in a document whose sections are tables. -/
def given? (k : Key) (members : List (String × Value)) : Option Value :=
  match members.lookup k.header with
  | some (.table keys) => keys.lookup k.name
  | _ => none

/-- The value has the type of the setting. -/
def HasType : Key → Value → Prop
  | dir, v | level, v => ∃ s, v = .string s
  | createDir, v | json, v => ∃ b, v = .boolean b
  | prefixes, v => ∃ ss : List String, v = .array (ss.map .string)
  | interval, v => ∃ n : Nat, v = .integer n

/-- The settings have the setting as the value says. -/
def SetTo : Key → Value → Settings → Prop
  | dir, v, s => ∃ w, v = .string w ∧ s.output.dir = .ofString w
  | createDir, v, s => v = .boolean s.output.createDir
  | prefixes, v, s => v = .array (s.parser.prefixes.map .string)
  | interval, v, s => v = .integer s.progressInterval.toNat
  | level, v, s => v = .string s.log.level
  | json, v, s => v = .boolean s.log.json

/-- The two settings have the setting alike. -/
def Agree : Key → Settings → Settings → Prop
  | dir, s, s' => s.output.dir = s'.output.dir
  | createDir, s, s' => s.output.createDir = s'.output.createDir
  | prefixes, s, s' => s.parser.prefixes = s'.parser.prefixes
  | interval, s, s' => s.progressInterval = s'.progressInterval
  | level, s, s' => s.log.level = s'.log.level
  | json, s, s' => s.log.json = s'.log.json

/-- The settings have the setting as it is given, or else as it is by default. -/
def GivenAs (k : Key) (given : Option Value) (s : Settings) : Prop :=
  match given with
  | some v => k.SetTo v s
  | none => k.Agree s {}

end Key

/-- The sections that are there are tables. -/
def HasSections (members : List (String × Value)) : Prop :=
  ∀ (k : Key) (v : Value), members.lookup k.header = some v → ∃ keys, v = .table keys

instance decidableIsTable : ∀ v : Value, Decidable (∃ keys, v = .table keys)
  | .table keys => .isTrue ⟨keys, rfl⟩
  | .string _ | .integer _ | .float _ | .boolean _ | .dateTime _ | .array _ => .isFalse nofun

instance decidableHasSections (members : List (String × Value)) : Decidable (HasSections members) :=
  inferInstanceAs (Decidable (∀ k : Key, ∀ v ∈ members.lookup k.header, ∃ keys, v = .table keys))

/-- **The settings that a document gives**: each is as the document has it, or else as it is by
default. -/
def GivenBy (s : Settings) (members : List (String × Value)) : Prop :=
  ∀ k : Key, k.GivenAs (k.given? members) s

variable {s s' : Settings} {members members' : List (String × Value)} {k : Key}

/-! ### Reading the keys -/

theorem strings?_eq_some_iff {elements : List Value} {ss : List String} :
    elements.mapM Value.string? = some ss ↔ elements = ss.map .string := by
  induction elements generalizing ss with
  | nil => cases ss <;> simp
  | cons v elements ih =>
    cases ss with
    | nil => simp [Option.bind_eq_some_iff]
    | cons w ss =>
      have hv : v.string? = some w ↔ v = .string w := by
        cases v <;> simp [Value.string?]
      simp [Option.bind_eq_some_iff, ih, hv]

theorem count?_eq_some_iff {v : Value} {n : Count} :
    v.count? = some n ↔ v = .integer n.toNat := by
  cases v with
  | integer i =>
    simp only [Value.count?, Option.ite_none_right_eq_some, Option.some.injEq, Value.integer.injEq]
    constructor
    · rintro ⟨⟨hi, hlt⟩, rfl⟩
      rw [UInt64.toNat_ofNat_of_lt' hlt, Int.toNat_of_nonneg hi]
    · rintro rfl
      exact ⟨⟨Int.natCast_nonneg _, n.toNat_lt⟩, by simp⟩
  | _ => simp [Value.count?]

/-- A section that is missing or a table is read key by key. -/
theorem sectionOf_eq {α : Type} (hsections : HasSections members) (k : Key)
    (read : (Nat → String → Option Value) → Option α) :
    sectionOf (members.lookup k.header) read =
      read fun _ name ↦ match members.lookup k.header with
        | some (.table keys) => keys.lookup name
        | _ => none := by
  rcases hlookup : members.lookup k.header with _ | v
  · rfl
  · obtain ⟨keys, rfl⟩ := hsections k v hlookup
    rfl

/-- A setting is read as it is given, if what it is read with says so of values. -/
theorem setting_eq_some_iff {α : Type} {read : Value → Option α} {default a : α}
    {given : Option Value} (hread : ∀ v, read v = some a ↔ k.SetTo v s)
    (hdefault : a = default ↔ k.Agree s {}) :
    setting given read default = some a ↔ k.GivenAs given s := by
  cases given with
  | none => rw [setting, Option.some.injEq, eq_comm, hdefault, Key.GivenAs]
  | some v => exact hread v

theorem readOutput_eq_some_iff {get : Nat → String → Option Value} {o : OutputSettings} :
    readOutput get = some o ↔
      setting (get 0 "dir") (fun v ↦ v.string?.map Path.ofString) ({} : OutputSettings).dir =
        some o.dir ∧
      setting (get 1 "create_dir") Value.boolean? ({} : OutputSettings).createDir =
        some o.createDir := by
  cases o
  simp [readOutput, Option.bind_eq_some_iff]

theorem readParser_eq_some_iff {get : Nat → String → Option Value} {q : StatementParser} :
    readParser get = some q ↔
      setting (get 0 "strip_prefixes") Value.strings? (default : StatementParser).prefixes =
        some q.prefixes := by
  cases q
  simp [readParser, Option.bind_eq_some_iff]

theorem readLog_eq_some_iff {get : Nat → String → Option Value} {l : LogSettings} :
    readLog get = some l ↔
      setting (get 0 "level") Value.string? ({} : LogSettings).level = some l.level ∧
      setting (get 1 "json_format") Value.boolean? ({} : LogSettings).json = some l.json := by
  cases l
  simp [readLog, Option.bind_eq_some_iff]

/-- **A document is read** as the settings that it gives. -/
theorem ofDocument?_eq_some_iff (hsections : HasSections members) :
    ofDocument? members = some s ↔ s.GivenBy members := by
  have hparts : ofDocument? members = some s ↔
      sectionOf (members.lookup Key.dir.header) readOutput = some s.output ∧
      sectionOf (members.lookup Key.prefixes.header) readParser = some s.parser ∧
      sectionOf (members.lookup Key.interval.header) readInterval = some s.progressInterval ∧
      sectionOf (members.lookup Key.level.header) readLog = some s.log := by
    cases s
    simp [ofDocument?, Key.header, Option.bind_eq_some_iff]
  rw [hparts, sectionOf_eq hsections, sectionOf_eq hsections, sectionOf_eq hsections,
    sectionOf_eq hsections, readOutput_eq_some_iff, readParser_eq_some_iff, readLog_eq_some_iff]
  have hdir : setting (Key.dir.given? members) (fun v ↦ v.string?.map Path.ofString)
      ({} : OutputSettings).dir = some s.output.dir ↔ Key.dir.GivenAs (Key.dir.given? members) s :=
    setting_eq_some_iff (fun v ↦ by cases v <;> simp [Key.SetTo, Value.string?, eq_comm]) Iff.rfl
  have hcreateDir : setting (Key.createDir.given? members) Value.boolean?
      ({} : OutputSettings).createDir = some s.output.createDir ↔
        Key.createDir.GivenAs (Key.createDir.given? members) s :=
    setting_eq_some_iff (fun v ↦ by cases v <;> simp [Key.SetTo, Value.boolean?]) Iff.rfl
  have hprefixes : setting (Key.prefixes.given? members) Value.strings?
      (default : StatementParser).prefixes = some s.parser.prefixes ↔
        Key.prefixes.GivenAs (Key.prefixes.given? members) s :=
    setting_eq_some_iff (fun v ↦ by
      cases v <;> simp [Key.SetTo, Value.strings?, strings?_eq_some_iff]) Iff.rfl
  have hinterval : setting (Key.interval.given? members) Value.count?
      ({} : Settings).progressInterval = some s.progressInterval ↔
        Key.interval.GivenAs (Key.interval.given? members) s :=
    setting_eq_some_iff (fun v ↦ count?_eq_some_iff) Iff.rfl
  have hlevel : setting (Key.level.given? members) Value.string? ({} : LogSettings).level =
      some s.log.level ↔ Key.level.GivenAs (Key.level.given? members) s :=
    setting_eq_some_iff (fun v ↦ by cases v <;> simp [Key.SetTo, Value.string?]) Iff.rfl
  have hjson : setting (Key.json.given? members) Value.boolean? ({} : LogSettings).json =
      some s.log.json ↔ Key.json.GivenAs (Key.json.given? members) s :=
    setting_eq_some_iff (fun v ↦ by cases v <;> simp [Key.SetTo, Value.boolean?]) Iff.rfl
  refine (and_congr (and_congr hdir hcreateDir)
    (and_congr hprefixes (and_congr hinterval (and_congr hlevel hjson)))).trans ⟨?_, ?_⟩
  · rintro ⟨⟨hdir, hcreateDir⟩, hprefixes, hinterval, hlevel, hjson⟩ k
    cases k <;> assumption
  · intro h
    exact ⟨⟨h .dir, h .createDir⟩, h .prefixes, h .interval, h .level, h .json⟩

/-! ### Types -/

/-- A value sets a setting if and only if it has its type. -/
theorem Key.exists_setTo_iff {v : Value} (hv : v.WellFormed) :
    (∃ s, k.SetTo v s) ↔ k.HasType v := by
  cases k with
  | dir =>
    refine ⟨fun ⟨s, w, hw, _⟩ ↦ ⟨w, hw⟩, ?_⟩
    rintro ⟨w, hw⟩
    exact ⟨{ output := { dir := .ofString w } }, w, hw, rfl⟩
  | createDir => exact ⟨fun ⟨s, hs⟩ ↦ ⟨_, hs⟩, fun ⟨b, hb⟩ ↦ ⟨{ output := { createDir := b } }, hb⟩⟩
  | prefixes => exact ⟨fun ⟨s, hs⟩ ↦ ⟨_, hs⟩, fun ⟨ss, hss⟩ ↦ ⟨{ parser := ⟨ss⟩ }, hss⟩⟩
  | interval =>
    refine ⟨fun ⟨s, hs⟩ ↦ ⟨_, hs⟩, ?_⟩
    rintro ⟨n, rfl⟩
    obtain ⟨⟩ | ⟨-, hmax⟩ := hv
    have hn : n < UInt64.size := by
      have hmax' : (n : Int) ≤ 9223372036854775807 := hmax
      have hsize : UInt64.size = 18446744073709551616 := rfl
      omega
    refine ⟨{ progressInterval := UInt64.ofNat n }, ?_⟩
    rw [Key.SetTo, UInt64.toNat_ofNat_of_lt' hn]
  | level => exact ⟨fun ⟨s, hs⟩ ↦ ⟨_, hs⟩, fun ⟨w, hw⟩ ↦ ⟨{ log := { level := w } }, hw⟩⟩
  | json => exact ⟨fun ⟨s, hs⟩ ↦ ⟨_, hs⟩, fun ⟨b, hb⟩ ↦ ⟨{ log := { json := b } }, hb⟩⟩

/-- The value of a key is part of the document. -/
theorem Key.exists_lookup_of_given? {v : Value} (h : k.given? members = some v) :
    ∃ keys, members.lookup k.header = some (.table keys) ∧ keys.lookup k.name = some v := by
  unfold given? at h
  split at h
  · exact ⟨_, ‹_›, h⟩
  · exact absurd h nofun

/-- **There are settings that a document gives** if and only if each key that is there has its
type. -/
theorem exists_givenBy_iff (hwf : (Value.table members).WellFormed) :
    (∃ s : Settings, s.GivenBy members) ↔
      ∀ (k : Key) (v : Value), k.given? members = some v → k.HasType v := by
  have hvalue (k : Key) {v : Value} (hv : k.given? members = some v) : v.WellFormed := by
    obtain ⟨keys, hsection, hname⟩ := Key.exists_lookup_of_given? hv
    exact (hwf.of_lookup hsection).of_lookup hname
  constructor
  · rintro ⟨s, hs⟩ k v hv
    have hset := hs k
    rw [hv] at hset
    exact (Key.exists_setTo_iff (hvalue k hv)).1 ⟨s, hset⟩
  · intro h
    -- the keys are independent: each has its own part of the settings
    have hkey (k : Key) : ∃ s, k.GivenAs (k.given? members) s := by
      rcases hv : k.given? members with _ | v
      · exact ⟨{}, by cases k <;> rfl⟩
      · exact (Key.exists_setTo_iff (hvalue k hv)).2 (h k v hv)
    choose s hs using hkey
    refine ⟨⟨⟨(s .dir).output.dir, (s .createDir).output.createDir⟩,
      ⟨(s .prefixes).parser.prefixes⟩, (s .interval).progressInterval,
      ⟨(s .level).log.level, (s .json).log.json⟩⟩, fun k ↦ ?_⟩
    cases k with
    | dir => exact hs .dir
    | createDir => exact hs .createDir
    | prefixes => exact hs .prefixes
    | interval => exact hs .interval
    | level => exact hs .level
    | json => exact hs .json

/-! ### Order -/

/-- In rearranged documents a section stands for the same table in another order. -/
theorem rel_lookup_of_rearranged (hwf : (Value.table members).WellFormed)
    (h : Toml.Rearranged members members') (name : String) :
    Option.Rel Value.Rearranged (members.lookup name) (members'.lookup name) := by
  obtain ⟨sorted, hperm, hsame⟩ := h
  rw [Toml.lookup_eq_of_perm hwf.nodup_keys hperm]
  clear hperm
  induction hsame with
  | nil => exact .none
  | @cons m m' sorted members' hm _ ih =>
    obtain ⟨key, v⟩ := m
    obtain ⟨key', v'⟩ := m'
    obtain ⟨rfl, hv⟩ := hm
    by_cases hname : name = key
    · subst hname
      simpa using Option.Rel.some hv
    · have hne : (name == key) = false := by simpa using hname
      simpa [List.lookup_cons, hne] using ih

/-- **The order of sections and of keys makes no difference** to what a document gives. -/
theorem given?_eq_of_rearranged (hwf : (Value.table members).WellFormed)
    (h : Toml.Rearranged members members') (k : Key) : k.given? members' = k.given? members := by
  have hrel := rel_lookup_of_rearranged hwf h k.header
  unfold Key.given?
  generalize hsection : members.lookup k.header = section?,
    members'.lookup k.header = section?' at hrel
  cases hrel with
  | none => rfl
  | some hv =>
    obtain rfl | ⟨keys, keys', rfl, rfl, hperm⟩ := hv
    · rfl
    · exact (Toml.lookup_eq_of_perm (hwf.of_lookup hsection).nodup_keys hperm k.name).symm

/-- Sections that are tables stay tables. -/
theorem hasSections_of_rearranged (hwf : (Value.table members).WellFormed)
    (h : Toml.Rearranged members members') (hsections : HasSections members) :
    HasSections members' := by
  intro k v' hsection'
  have hrel := rel_lookup_of_rearranged hwf h k.header
  rw [hsection'] at hrel
  generalize hsection : members.lookup k.header = section? at hrel
  cases hrel with
  | some hv =>
    obtain ⟨keys, rfl⟩ := hsections k _ hsection
    obtain heq | ⟨-, keys', -, rfl, -⟩ := hv
    · exact ⟨keys, heq.symm⟩
    · exact ⟨keys', rfl⟩

/-! ### Files -/

variable {t t' : FileTree} {p p' : Path} {text text' : String}

/-- Loading is a matter of the text that reading gives. -/
theorem load_eq (h : t.ReadsAs p text) :
    load t p = (ofText? text).elim (.error (.malformed p)) .ok := by
  rw [load, h]
  simp only [Text.Utf8.decode_toUTF8]
  cases ofText? text <;> rfl

/-- **A file is loaded** as the settings that its document gives. -/
theorem load_eq_ok_iff (hfile : t.ReadsAs p text) (hparse : Toml.parse? text = some members)
    (hsections : HasSections members) : load t p = .ok s ↔ s.GivenBy members := by
  rw [load_eq hfile, ofText?, hparse, ← ofDocument?_eq_some_iff hsections]
  rcases hread : ofDocument? members with _ | s' <;> simp [hread]

/-- Why no settings can be loaded from a path: it cannot be read, its bytes are no text, or the text
gives no settings. -/
inductive Unloadable (t : FileTree) (p : Path) : SettingsError → Prop where
  | unread {f : FileError} (h : (t.openRead p >>= Entry.read) = .error f) :
    Unloadable t p (.unreadable p (.file f))
  | notText {content : ByteArray} (h : (t.openRead p >>= Entry.read) = .ok content)
    (hcontent : ∀ text : String, content ≠ text.toUTF8) : Unloadable t p (.unreadable p .notText)
  | malformed {text : String} (h : t.ReadsAs p text) (hsettings : ofText? text = none) :
    Unloadable t p (.malformed p)

theorem load_eq_error_iff {e : SettingsError} : load t p = .error e ↔ Unloadable t p e := by
  constructor
  · intro h
    unfold load at h
    split at h
    · obtain rfl := Except.error.inj h
      exact .unread ‹_›
    · rename_i content hread
      split at h
      · rename_i hdecode
        obtain rfl := Except.error.inj h
        refine .notText hread fun text htext ↦ ?_
        rw [Text.Utf8.decode_eq_ok_iff.2 htext] at hdecode
        exact absurd hdecode nofun
      · rename_i text hdecode
        rw [Text.Utf8.decode_eq_ok_iff.1 hdecode] at hread
        split at h
        · exact absurd h nofun
        · obtain rfl := Except.error.inj h
          exact .malformed hread ‹_›
  · rintro (h | ⟨h, hcontent⟩ | ⟨h, hsettings⟩)
    · simp only [load, h]
    · simp only [load, h]
      split
      · rfl
      · exact absurd (Text.Utf8.decode_eq_ok_iff.1 ‹_›) (hcontent _)
    · rw [load_eq h, hsettings, Option.elim_none]

end Settings

open Settings in
/-- **A settings file sets exactly the keys it names.** A document whose sections are tables is
loaded if and only if each key that is there has its type, and otherwise it is refused as malformed.
Each of the six settings is then the document's if its key is there and the default if it is not.
What else the document has, and in which order it has its sections and keys, makes no
difference. -/
theorem settings_of_document {t : FileTree} {p : Path} {text : String}
    {members : List (String × Toml.Value)} (hfile : t.ReadsAs p text)
    (hparse : Toml.parse? text = some members) (hsections : HasSections members) :
    ((∃ s, load t p = .ok s) ↔
      ∀ (k : Key) (v : Toml.Value), k.given? members = some v → k.HasType v) ∧
    (∀ s, load t p = .ok s ↔ s.GivenBy members) ∧
    (∀ e, load t p = .error e → e = .malformed p) ∧
    ∀ {t' : FileTree} {p' : Path} {text' : String} {members' : List (String × Toml.Value)},
      t'.ReadsAs p' text' → Toml.parse? text' = some members' →
      (HasSections members' ∧ ∀ k : Key, k.given? members' = k.given? members) ∨
        Toml.Rearranged members members' →
      ∀ s, load t' p' = .ok s ↔ load t p = .ok s := by
  have hwf := Toml.wellFormed_of_parse? hparse
  refine ⟨?_, fun s ↦ load_eq_ok_iff hfile hparse hsections, fun e he ↦ ?_, ?_⟩
  · simp only [load_eq_ok_iff hfile hparse hsections]
    exact exists_givenBy_iff hwf
  · rw [load_eq hfile] at he
    rcases hsettings : ofText? text with _ | s <;> rw [hsettings] at he
    · exact (Except.error.inj he).symm
    · exact absurd he nofun
  · intro t' p' text' members' hfile' hparse' hsame s
    have hsame' : HasSections members' ∧ ∀ k : Key, k.given? members' = k.given? members :=
      hsame.elim id fun h ↦
        ⟨hasSections_of_rearranged hwf h hsections, given?_eq_of_rearranged hwf h⟩
    rw [load_eq_ok_iff hfile' hparse' hsame'.1, load_eq_ok_iff hfile hparse hsections]
    simp only [GivenBy, hsame'.2]

/-- Two sections in no particular order, with a key that is none, and a section that is none. -/
def partialDocument : String :=
  "[pipeline]\nworkers = 4\nprogress_interval = 0\n[mirror.first]\ndir = [1.5]\n" ++
    "[output]\ncreate_dir = true\n"

/-- A tree with the document in a file. -/
def partialDocumentTree : FileTree :=
  { entries := [([(Path.ofString "wdp.toml").bytes], .file partialDocument.toUTF8)] }

theorem readsAs_partialDocument :
    partialDocumentTree.ReadsAs (.ofString "wdp.toml") partialDocument := by
  unfold FileTree.ReadsAs
  cbv

/-- The document sets two settings and leaves the others. -/
theorem exists_givenBy_partialDocument : ∃ members, Toml.parse? partialDocument = some members ∧
    Settings.HasSections members ∧
    Settings.GivenBy { output := { createDir := true }, progressInterval := 0 } members := by
  have hread : ∃ members ∈ Toml.parse? partialDocument, Settings.HasSections members ∧
      Settings.ofDocument? members =
        some { output := { createDir := true }, progressInterval := 0 } := by
    decide +kernel
  obtain ⟨members, hparse, hsections, hdocument⟩ := hread
  exact ⟨members, hparse, hsections, (Settings.ofDocument?_eq_some_iff hsections).1 hdocument⟩

open Settings in
/-- The document is loaded: all of its keys have their types. -/
theorem settings_of_document_partial :
    ∃ members, Toml.parse? partialDocument = some members ∧ HasSections members ∧
      partialDocumentTree.ReadsAs (.ofString "wdp.toml") partialDocument ∧
      (∀ (k : Key) (v : Toml.Value), k.given? members = some v → k.HasType v) ∧
      load partialDocumentTree (.ofString "wdp.toml") =
        .ok { output := { createDir := true }, progressInterval := 0 } := by
  obtain ⟨members, hparse, hsections, hgiven⟩ := exists_givenBy_partialDocument
  obtain ⟨htypes, hload, -, -⟩ := settings_of_document readsAs_partialDocument hparse hsections
  have hloaded := (hload _).2 hgiven
  exact ⟨members, hparse, hsections, readsAs_partialDocument, htypes.1 ⟨_, hloaded⟩, hloaded⟩

end PersonRelations
