import PersonRelations.Command.Invocation
import PersonRelations.Proofs.Settings.Documents

/-!
# Where the settings of a run come from

Four sources lie over each other: the defaults, the settings file, the environment and the command
line. A variable of the environment replaces one setting and leaves the others, so the order of the
four variables matters for errors only: `Settings.override_eq` says which value each setting has in
the end, and in which order the readings fail. All that is said of layers follows from there.

What variables mean is said without the readers: a count is spelled by digits (`Count.Spells`), a
log format is a word up to letter case (`LogFormat`), and a variable is set to a text if it has the
bytes of the text (`Command.Environment.Sets`).
-/

namespace PersonRelations

/-! ### The texts of variables -/

/-- The text spells the number: decimal digits, of which there is at least one, after a plus sign or
not. -/
def Count.Spells (text : String) (n : Nat) : Prop :=
  ∃ digits : List Char, digits ≠ [] ∧ (∀ c ∈ digits, c.isDigit) ∧
    (text.toList = digits ∨ text.toList = '+' :: digits) ∧ Nat.ofDigitChars 10 digits 0 = n

/-- The text is the word in lower-case letters, whatever the case of its own. -/
def Text.SameUpToCase (text word : String) : Prop :=
  List.Forall₂ (fun c w ↦ c = w ∨ c = w.toUpper) text.toList word.toList

/-- The text is a log format, and whether it asks for JSON. -/
inductive LogFormat : String → Bool → Prop where
  | json {text : String} (h : Text.SameUpToCase text "json") : LogFormat text true
  | text {text : String} (h : Text.SameUpToCase text "text") : LogFormat text false
  | pretty {text : String} (h : Text.SameUpToCase text "pretty") : LogFormat text false

/-- The digits are what is left of the text without its plus sign. -/
theorem Count.spells_iff {text : String} {digits : List Char} {n : Nat}
    (h : text.toList = '+' :: digits ∨ text.toList = digits ∧ digits.head? ≠ some '+') :
    Count.Spells text n ↔
      digits ≠ [] ∧ (∀ c ∈ digits, c.isDigit) ∧ Nat.ofDigitChars 10 digits 0 = n := by
  constructor
  · rintro ⟨ds, hne, hdigits, htext, hvalue⟩
    have hhead : ds.head? ≠ some '+' := fun hplus ↦
      absurd (hdigits '+' (List.mem_of_mem_head? hplus)) (by decide)
    have hds : ds = digits := by
      obtain htext | htext := htext <;> obtain h | ⟨h, hnot⟩ := h <;> rw [htext] at h
      · exact absurd (h ▸ rfl) hhead
      · exact h
      · exact (List.cons.inj h).2
      · exact absurd (h ▸ rfl) hnot
    exact hds ▸ ⟨hne, hdigits, hvalue⟩
  · rintro ⟨hne, hdigits, hvalue⟩
    exact ⟨digits, hne, hdigits, h.symm.imp_left And.left, hvalue⟩

/-- Digits are read as their number if it is below 2^64. -/
theorem Count.ofDigits_eq_some_iff {digits : List Char} {n : Count} :
    (if digits.isEmpty || !digits.all Char.isDigit then none
      else if digits.foldl (fun n c ↦ n * 10 + (c.toNat - '0'.toNat)) 0 < UInt64.size then
        some (UInt64.ofNat (digits.foldl (fun n c ↦ n * 10 + (c.toNat - '0'.toNat)) 0))
      else none) = some n ↔
      digits ≠ [] ∧ (∀ c ∈ digits, c.isDigit) ∧ Nat.ofDigitChars 10 digits 0 = n.toNat := by
  simp only [Nat.ofDigitChars_eq_foldl, mul_comm 10]
  generalize digits.foldl (fun n c ↦ n * 10 + (c.toNat - '0'.toNat)) 0 = m
  have hvalue : (if m < UInt64.size then some (UInt64.ofNat m) else none) = some n ↔
      m = n.toNat := by
    constructor
    · intro h
      obtain ⟨hm, hn⟩ := Option.ite_none_right_eq_some.1 h
      rw [← Option.some.inj hn, UInt64.toNat_ofNat_of_lt' hm]
    · rintro rfl
      rw [if_pos n.toNat_lt, UInt64.ofNat_toNat]
  rw [← hvalue]
  simp [and_assoc]

theorem Count.ofString?_eq_some_iff {text : String} {n : Count} :
    Count.ofString? text = some n ↔ Count.Spells text n.toNat := by
  unfold Count.ofString?
  dsimp only
  split
  · rename_i digits htext
    rw [Count.spells_iff (.inl htext), Count.ofDigits_eq_some_iff]
  · rename_i hplus
    have hhead : text.toList.head? ≠ some '+' := by
      intro h
      obtain ⟨ds, hds⟩ := List.head?_eq_some_iff.1 h
      exact hplus ds hds
    rw [Count.spells_iff (.inr ⟨rfl, hhead⟩), Count.ofDigits_eq_some_iff]

/-- A character is one of two in lower case if that is a letter. -/
theorem Text.toLower_eq_iff {c w : Char} (hw : w.isLower) :
    c.toLower = w ↔ c = w ∨ c = w.toUpper := by
  constructor
  · rintro rfl
    by_cases hc : c.isUpper
    · right
      rw [Char.toUpper_toLower_eq_toUpper, Char.toUpper_eq_of_not_isLower]
      exact Char.not_isLower_of_isUpper hc
    · exact .inl (Char.toLower_eq_of_not_isUpper hc).symm
  · rintro (rfl | rfl)
    · exact Char.toLower_eq_of_not_isUpper (Char.not_isUpper_of_isLower hw)
    · rw [Char.toLower_toUpper_eq_toLower]
      exact Char.toLower_eq_of_not_isUpper (Char.not_isUpper_of_isLower hw)

theorem Text.map_toLower_eq_iff (text : String) {word : String}
    (hword : word.toList.all Char.isLower) :
    String.ofList (text.toList.map Char.toLower) = word ↔ Text.SameUpToCase text word := by
  rw [← String.toList_inj, String.toList_ofList, ← List.forall₂_eq_eq_eq, List.forall₂_map_left_iff,
    Text.SameUpToCase]
  generalize text.toList = cs, word.toList = ws at hword ⊢
  induction ws generalizing cs with
  | nil => simp
  | cons w ws ih =>
    obtain ⟨hw, hws⟩ := Bool.and_eq_true_iff.1 hword
    cases cs with
    | nil => simp
    | cons c cs => simp only [List.forall₂_cons, Text.toLower_eq_iff hw, ih cs hws]

theorem logFormat?_eq_some_iff {text : String} {json : Bool} :
    logFormat? text = some json ↔ LogFormat text json := by
  have hjson : _ = "json" ↔ _ := Text.map_toLower_eq_iff text (by decide)
  have htext : _ = "text" ↔ _ := Text.map_toLower_eq_iff text (by decide)
  have hpretty : _ = "pretty" ↔ _ := Text.map_toLower_eq_iff text (by decide)
  have hformat : LogFormat text json ↔ json = true ∧ Text.SameUpToCase text "json" ∨
      json = false ∧ (Text.SameUpToCase text "text" ∨ Text.SameUpToCase text "pretty") := by
    constructor
    · rintro (h | h | h)
      exacts [.inl ⟨rfl, h⟩, .inr ⟨rfl, .inl h⟩, .inr ⟨rfl, .inr h⟩]
    · rintro (⟨rfl, h⟩ | ⟨rfl, h | h⟩)
      exacts [.json h, .text h, .pretty h]
  rw [hformat, ← hjson, ← htext, ← hpretty, logFormat?]
  generalize String.ofList (text.toList.map Char.toLower) = word
  split_ifs with hword hword'
  · simp [hword, eq_comm]
  · simp [hword, hword', eq_comm]
  · simp [hword, hword']

/-- The text spells a count, which is below 2^64. -/
def Count.IsSpelled (text : String) : Prop :=
  ∃ n < 2 ^ 64, Count.Spells text n

/-- The text is a log format. -/
def LogFormat.IsNamed (text : String) : Prop :=
  ∃ json, LogFormat text json

theorem Count.ofString?_eq_none_iff {text : String} :
    Count.ofString? text = none ↔ ¬Count.IsSpelled text := by
  rw [← not_iff_not, not_not, ← ne_eq, Option.ne_none_iff_exists']
  simp only [Count.ofString?_eq_some_iff]
  constructor
  · rintro ⟨n, hn⟩
    exact ⟨n.toNat, n.toNat_lt, hn⟩
  · rintro ⟨n, hlt, hn⟩
    exact ⟨UInt64.ofNat n, by rwa [UInt64.toNat_ofNat_of_lt' hlt]⟩

theorem logFormat?_eq_none_iff {text : String} :
    logFormat? text = none ↔ ¬LogFormat.IsNamed text := by
  rw [← not_iff_not, not_not, ← ne_eq, Option.ne_none_iff_exists']
  simp only [logFormat?_eq_some_iff, LogFormat.IsNamed]

/-! ### Variables -/

namespace Settings

/-- The value that is given if one is given, which has to be read so, and else the old one. -/
def TakenFrom {α : Type} (given : Option String) (Reads : String → α → Prop) (old new : α) : Prop :=
  match given with
  | some text => Reads text new
  | none => new = old

/-- The value of a variable if it is set, and else the old one. -/
def valueOr {α : Type} (lookup : String → Option String) (key : String) (read : String → Option α)
    (old : α) : Except SettingsError α :=
  match lookup key with
  | none => .ok old
  | some text =>
    match read text with
    | some a => .ok a
    | none => .error (.invalidValue key text)

variable {α : Type} {lookup : String → Option String} {key : String} {read : String → Option α}

theorem valueOr_eq_ok_iff {old a : α} : valueOr lookup key read old = .ok a ↔
    TakenFrom (lookup key) (fun text a ↦ read text = some a) old a := by
  unfold valueOr TakenFrom
  rcases lookup key with _ | text
  · simp [eq_comm]
  · rcases hread : read text with _ | b <;> simp [hread]

theorem valueOr_eq_error_iff {old : α} {e : SettingsError} :
    valueOr lookup key read old = .error e ↔
      ∃ text, lookup key = some text ∧ read text = none ∧ e = .invalidValue key text := by
  unfold valueOr
  rcases lookup key with _ | text
  · simp
  · rcases hread : read text with _ | b <;> simp [hread, eq_comm]

/-- A variable replaces the setting that `get` gives. -/
theorem overrideWith_bind {β : Type} {apply : Settings → α → Settings} (get : Settings → α)
    (h : ∀ s, apply s (get s) = s) (rest : Settings → Except SettingsError β) (s : Settings) :
    s.overrideWith lookup key read apply >>= rest =
      valueOr lookup key read (get s) >>= fun a ↦ rest (apply s a) := by
  unfold overrideWith valueOr
  rcases lookup key with _ | text
  · exact (congrArg rest (h s)).symm
  · dsimp only
    rcases read text with _ | a <;> rfl

/-- **The variables replace one setting each**, and are read in this order. -/
theorem override_eq (lookup : String → Option String) (s : Settings) : override lookup s = (do
    let dir ← valueOr lookup "WDP_OUTPUT_DIR" (some ∘ Path.ofString) s.output.dir
    let interval ← valueOr lookup "WDP_PROGRESS_INTERVAL" Count.ofString? s.progressInterval
    let level ← valueOr lookup "LOG_LEVEL" some s.log.level
    let json ← valueOr lookup "LOG_FORMAT" logFormat? s.log.json
    .ok ⟨⟨dir, s.output.createDir⟩, s.parser, interval, ⟨level, json⟩⟩) := by
  unfold override
  rw [overrideWith_bind (fun s ↦ s.output.dir) fun _ ↦ rfl]
  refine bind_congr fun dir ↦ ?_
  rw [overrideWith_bind (fun s ↦ s.progressInterval) fun _ ↦ rfl]
  refine bind_congr fun interval ↦ ?_
  rw [overrideWith_bind (fun s ↦ s.log.level) fun _ ↦ rfl]
  refine bind_congr fun level ↦ ?_
  rw [← bind_pure (overrideWith ..), overrideWith_bind (fun s ↦ s.log.json) fun _ ↦ rfl]
  rfl

theorem bind_eq_ok_iff {ε α β : Type} {x : Except ε α} {f : α → Except ε β} {b : β} :
    x >>= f = .ok b ↔ ∃ a, x = .ok a ∧ f a = .ok b := by
  cases x <;> simp [bind, Except.bind]

theorem bind_eq_error_iff {ε α β : Type} {x : Except ε α} {f : α → Except ε β} {e : ε} :
    x >>= f = .error e ↔ x = .error e ∨ ∃ a, x = .ok a ∧ f a = .error e := by
  cases x <;> simp [bind, Except.bind]

/-- The second settings are the first with the values of variables in place of others. -/
structure Overridden (lookup : String → Option String) (s s' : Settings) : Prop where
  dir : TakenFrom (lookup "WDP_OUTPUT_DIR") (fun text dir ↦ .ofString text = dir)
    s.output.dir s'.output.dir
  createDir : s'.output.createDir = s.output.createDir
  parser : s'.parser = s.parser
  interval : TakenFrom (lookup "WDP_PROGRESS_INTERVAL") (fun text n ↦ Count.Spells text n.toNat)
    s.progressInterval s'.progressInterval
  level : TakenFrom (lookup "LOG_LEVEL") (fun text level ↦ text = level) s.log.level s'.log.level
  json : TakenFrom (lookup "LOG_FORMAT") LogFormat s.log.json s'.log.json

variable {s s' : Settings} {e : SettingsError}

/-- **Settings are overridden** setting by setting. -/
theorem override_eq_ok_iff : override lookup s = .ok s' ↔ s.Overridden lookup s' := by
  simp only [override_eq, bind_eq_ok_iff, valueOr_eq_ok_iff, Count.ofString?_eq_some_iff,
    logFormat?_eq_some_iff, Function.comp_apply, Option.some.injEq, Except.ok.injEq]
  constructor
  · rintro ⟨dir, hdir, interval, hinterval, level, hlevel, json, hjson, rfl⟩
    exact ⟨hdir, rfl, rfl, hinterval, hlevel, hjson⟩
  · intro h
    refine ⟨_, h.dir, _, h.interval, _, h.level, _, h.json, ?_⟩
    rw [← h.createDir, ← h.parser]

/-- Overriding twice is overriding once. -/
theorem override_override (h : override lookup s = .ok s') : override lookup s' = .ok s' := by
  have htwice {α : Type} {given : Option String} {Reads : String → α → Prop} {old new : α}
      (h : TakenFrom given Reads old new) : TakenFrom given Reads new new := by
    cases given with
    | none => rfl
    | some text => exact h
  have hs' := override_eq_ok_iff.1 h
  exact override_eq_ok_iff.2
    ⟨htwice hs'.dir, rfl, rfl, htwice hs'.interval, htwice hs'.level, htwice hs'.json⟩

/-- A variable gives a value unless it is set to a text that means none. -/
theorem exists_valueOr_eq_ok_iff {old : α} : (∃ a, valueOr lookup key read old = .ok a) ↔
    ∀ text, lookup key = some text → read text ≠ none := by
  unfold valueOr
  rcases lookup key with _ | text
  · simp
  · rcases hread : read text with _ | a <;> simp [hread]

/-- **Overriding fails** if the interval is no count, or else if the format is no format. -/
theorem override_eq_error_iff : override lookup s = .error e ↔
    (∃ text, lookup "WDP_PROGRESS_INTERVAL" = some text ∧ ¬Count.IsSpelled text ∧
      e = .invalidValue "WDP_PROGRESS_INTERVAL" text) ∨
    (∀ text, lookup "WDP_PROGRESS_INTERVAL" = some text → Count.IsSpelled text) ∧
    ∃ text, lookup "LOG_FORMAT" = some text ∧ ¬LogFormat.IsNamed text ∧
      e = .invalidValue "LOG_FORMAT" text := by
  -- a directory or a level can be read of any text
  obtain ⟨dir, hdir⟩ : ∃ dir, valueOr lookup "WDP_OUTPUT_DIR" (some ∘ Path.ofString) s.output.dir =
      .ok dir := exists_valueOr_eq_ok_iff.2 fun _ _ ↦ nofun
  obtain ⟨level, hlevel⟩ : ∃ level, valueOr lookup "LOG_LEVEL" some s.log.level = .ok level :=
    exists_valueOr_eq_ok_iff.2 fun _ _ ↦ nofun
  rw [override_eq, hdir, hlevel]
  simp only [bind_eq_error_iff, valueOr_eq_error_iff, Except.ok.injEq, reduceCtorEq, false_or,
    exists_eq_left', and_false, exists_false, or_false, exists_and_right, exists_valueOr_eq_ok_iff,
    ne_eq, Count.ofString?_eq_none_iff, logFormat?_eq_none_iff, not_not]

end Settings

/-! ### The four layers -/

namespace Command

/-- The variable is set to the text, that is, to its bytes. -/
def Environment.Sets (env : Environment) (key text : String) : Prop :=
  env key = some text.toUTF8.data.toList

/-- The value that the variable is read as if it is set to a text, and else the old one. -/
def Environment.Decides {α : Type} (env : Environment) (key : String) (Reads : String → α → Prop)
    (old new : α) : Prop :=
  (∃ text, env.Sets key text ∧ Reads text new) ∨ (∀ text, ¬env.Sets key text) ∧ new = old

/-- A variable is set to a text if and only if that is its text. One that is not UTF-8 is set to
none. -/
theorem Environment.text_eq_some_iff {env : Environment} {key text : String} :
    env.text key = some text ↔ env.Sets key text := by
  have hbytes (bytes : List UInt8) :
      bytes.toByteArray = text.toUTF8 ↔ bytes = text.toUTF8.data.toList := by
    rw [ByteArray.ext_iff, List.data_toByteArray, ← Array.toList_inj]
  unfold Environment.text Environment.Sets
  rcases env key with _ | bytes
  · simp
  · rw [Option.some.injEq, ← hbytes, ← Text.Utf8.decode_eq_ok_iff]
    cases hdecode : Text.Utf8.decode bytes.toByteArray <;> simp [Except.toOption, hdecode]

theorem Environment.takenFrom_text_iff {α : Type} {env : Environment} {key : String}
    {Reads : String → α → Prop} {old new : α} :
    Settings.TakenFrom (env.text key) Reads old new ↔ env.Decides key Reads old new := by
  unfold Decides
  simp only [← Environment.text_eq_some_iff]
  unfold Settings.TakenFrom
  cases env.text key <;> simp

namespace Invocation

/-- The file settings of an invocation: those of the file that it names, or the defaults. -/
def StartsFrom (x : Invocation) (t : FileTree) (file : Settings) : Prop :=
  match x.config? with
  | some p => Settings.load t p = .ok file
  | none => file = {}

/-- **The settings of a run**, layer by layer: what the command line says, or else the environment,
or else the file. -/
structure Layered (x : Invocation) (env : Environment) (file s : Settings) : Prop where
  dir : x.outputDir? = some s.output.dir ∨ x.outputDir? = none ∧
    env.Decides "WDP_OUTPUT_DIR" (fun text dir ↦ .ofString text = dir) file.output.dir s.output.dir
  createDir : s.output.createDir = (x.createDir || file.output.createDir)
  parser : s.parser = file.parser
  interval : env.Decides "WDP_PROGRESS_INTERVAL" (fun text n ↦ Count.Spells text n.toNat)
    file.progressInterval s.progressInterval
  level : env.Decides "LOG_LEVEL" (fun text level ↦ text = level) file.log.level s.log.level
  json : env.Decides "LOG_FORMAT" LogFormat file.log.json s.log.json

variable {x : Invocation} {env : Environment} {t : FileTree} {file s : Settings}

theorem startsFrom_iff : x.StartsFrom t file ↔ x.fileSettings t = .ok file := by
  unfold StartsFrom fileSettings
  cases x.config? <;> simp [eq_comm]

theorem settings_eq (hfile : x.StartsFrom t file) : x.settings env t =
    Settings.override env.text file >>= fun s ↦ .ok (x.amend s) := by
  rw [settings, startsFrom_iff.1 hfile]
  rfl

theorem settings_eq_ok_iff (hfile : x.StartsFrom t file) :
    x.settings env t = .ok s ↔ x.Layered env file s := by
  simp only [settings_eq hfile, Settings.bind_eq_ok_iff, Settings.override_eq_ok_iff,
    Except.ok.injEq]
  constructor
  · rintro ⟨o, ho, rfl⟩
    refine ⟨?_, congrArg (x.createDir || ·) ho.createDir, ho.parser,
      Environment.takenFrom_text_iff.1 ho.interval, Environment.takenFrom_text_iff.1 ho.level,
      Environment.takenFrom_text_iff.1 ho.json⟩
    unfold amend
    cases x.outputDir? with
    | some p => exact .inl rfl
    | none => exact .inr ⟨rfl, Environment.takenFrom_text_iff.1 ho.dir⟩
  · intro h
    -- a directory of the command line hides that of the environment, which is there all the same
    have hdir : ∃ dir, Settings.TakenFrom (env.text "WDP_OUTPUT_DIR")
        (fun text dir ↦ .ofString text = dir) file.output.dir dir ∧
        x.outputDir?.getD dir = s.output.dir := by
      obtain hgiven | ⟨hnone, hdecides⟩ := h.dir
      · refine ⟨((env.text "WDP_OUTPUT_DIR").map Path.ofString).getD file.output.dir, ?_, ?_⟩
        · unfold Settings.TakenFrom
          cases env.text "WDP_OUTPUT_DIR" <;> rfl
        · rw [hgiven, Option.getD_some]
      · exact ⟨_, Environment.takenFrom_text_iff.2 hdecides, by rw [hnone, Option.getD_none]⟩
    obtain ⟨dir, hdir, hsame⟩ := hdir
    refine ⟨⟨⟨dir, file.output.createDir⟩, s.parser, s.progressInterval, s.log⟩,
      ⟨hdir, rfl, h.parser, Environment.takenFrom_text_iff.2 h.interval,
        Environment.takenFrom_text_iff.2 h.level, Environment.takenFrom_text_iff.2 h.json⟩, ?_⟩
    rw [amend, hsame, ← h.createDir]

theorem settings_eq_error_iff {e : SettingsError} (hfile : x.StartsFrom t file) :
    x.settings env t = .error e ↔ Settings.override env.text file = .error e := by
  rw [settings_eq hfile, Settings.bind_eq_error_iff]
  simp

end Invocation

end Command

open Command in
/-- **The four layers of settings.** A file that is named and cannot be loaded is the error,
whatever the environment. With the settings of the file, or with the defaults if none is named,
there are settings unless the environment has an interval that is no count, which is reported first,
or a log format that is no format; and each setting is then that of the command line, or else of the
environment, or else of the file. Replacing settings by variables a second time changes nothing. -/
theorem settings_layered (x : Invocation) (env : Environment) (t : FileTree) :
    ((∃ p e, x.config? = some p ∧ Settings.Unloadable t p e) ∨ ∃ file, x.StartsFrom t file) ∧
    (∀ p e, x.config? = some p → Settings.Unloadable t p e → x.settings env t = .error e) ∧
    (∀ file, x.StartsFrom t file →
      (∀ e, x.settings env t = .error e ↔
        (∃ text, env.Sets "WDP_PROGRESS_INTERVAL" text ∧ ¬Count.IsSpelled text ∧
          e = .invalidValue "WDP_PROGRESS_INTERVAL" text) ∨
        (∀ text, env.Sets "WDP_PROGRESS_INTERVAL" text → Count.IsSpelled text) ∧
        ∃ text, env.Sets "LOG_FORMAT" text ∧ ¬LogFormat.IsNamed text ∧
          e = .invalidValue "LOG_FORMAT" text) ∧
      (∀ s, x.settings env t = .ok s ↔ x.Layered env file s) ∧
      ∀ p text members, x.config? = some p → t.ReadsAs p text → Toml.parse? text = some members →
        Settings.HasSections members → file.GivenBy members) ∧
    ∀ lookup s s', Settings.override lookup s = .ok s' → Settings.override lookup s' = .ok s' := by
  refine ⟨?_, fun p e hconfig he ↦ ?_, fun file hfile ↦ ⟨fun e ↦ ?_, fun s ↦
    Invocation.settings_eq_ok_iff hfile, fun p text members hconfig hread hparse hsections ↦ ?_⟩,
    fun lookup s s' ↦ Settings.override_override⟩
  · rcases hconfig : x.config? with _ | p
    · exact .inr ⟨{}, by rw [Invocation.StartsFrom, hconfig]⟩
    · rcases hload : Settings.load t p with e | file
      · exact .inl ⟨p, e, rfl, Settings.load_eq_error_iff.1 hload⟩
      · exact .inr ⟨file, by rwa [Invocation.StartsFrom, hconfig]⟩
  · rw [Invocation.settings, Invocation.fileSettings, hconfig]
    simp only [Settings.load_eq_error_iff.2 he]
    rfl
  · simp only [Invocation.settings_eq_error_iff hfile, Settings.override_eq_error_iff,
      Environment.text_eq_some_iff]
  · rw [Invocation.StartsFrom, hconfig] at hfile
    exact (Settings.load_eq_ok_iff hread hparse hsections).1 hfile

/-- A variable that is not UTF-8 among others. -/
def mixedEnvironment : Command.Environment := fun key ↦
  if key = "WDP_OUTPUT_DIR" then some "out".toUTF8.data.toList
  else if key = "WDP_PROGRESS_INTERVAL" then some "+500".toUTF8.data.toList
  else if key = "LOG_LEVEL" then some [0xFF]
  else if key = "LOG_FORMAT" then some "Json".toUTF8.data.toList
  else none

/-- An invocation that names a settings file. -/
def mixedInvocation : Command.Invocation :=
  { input := .ofString "dump.gz", config? := some (.ofString "wdp.toml") }

/-- Of the settings, one is that of the file, three are those of the environment and two those by
default. -/
theorem settings_layered_mixed :
    mixedInvocation.StartsFrom partialDocumentTree
      { output := { createDir := true }, progressInterval := 0 } ∧
    mixedInvocation.settings mixedEnvironment partialDocumentTree =
      .ok ⟨⟨.ofString "out", true⟩, default, 500, ⟨"info", true⟩⟩ := by
  obtain ⟨members, hparse, hsections, hgiven⟩ := exists_givenBy_partialDocument
  have hload := (Settings.load_eq_ok_iff readsAs_partialDocument hparse hsections).2 hgiven
  obtain ⟨-, -, hlayers, -⟩ :=
    settings_layered mixedInvocation mixedEnvironment partialDocumentTree
  refine ⟨hload, ((hlayers _ hload).2.1 _).2 ?_⟩
  have hlevel (text : String) : ¬mixedEnvironment.Sets "LOG_LEVEL" text := by
    have hnone : mixedEnvironment.text "LOG_LEVEL" = none := by decide +kernel
    rw [← Command.Environment.text_eq_some_iff, hnone]
    exact nofun
  have hinterval : Count.Spells "+500" 500 :=
    ⟨['5', '0', '0'], by decide, by simp, by decide, by decide⟩
  have hformat : Text.SameUpToCase "Json" "json" := by
    unfold Text.SameUpToCase
    decide
  exact {
    dir := .inr ⟨rfl, .inl ⟨"out", rfl, rfl⟩⟩
    createDir := rfl
    parser := rfl
    interval := .inl ⟨"+500", rfl, hinterval⟩
    level := .inr ⟨hlevel, rfl⟩
    json := .inl ⟨"Json", rfl, .json hformat⟩ }

end PersonRelations
