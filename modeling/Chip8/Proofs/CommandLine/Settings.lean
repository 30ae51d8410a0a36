import Chip8.CommandLine
import Mathlib.Tactic.ByContra

namespace Chip8

namespace Setting

/-- An integer is read as the byte whose value it is. -/
theorem readByte_integer_iff (value : Int) (byte : UInt8) :
    (integer value).readByte = .ok byte ↔ value = byte.toNat := by
  have small := byte.toNat_lt
  simp only [readByte, readInteger, bind, Except.bind, pure, Except.pure, throw, throwThe,
    MonadExceptOf.throw]
  constructor
  · intro read
    split at read
    · cases read
    · split at read
      · cases read
      · have exact := toNat_byte_ofInt value
        rw [Except.ok.inj read] at exact
        omega
  · rintro rfl
    rw [if_neg (by omega), if_neg (by omega), byte_ofInt_toNat]

/-- A policy is read off its name. -/
theorem readPolicy_name_iff (value policy : ErrorPolicy) :
    (text value.name).readPolicy = .ok policy ↔ value = policy := by
  have named : (text value.name).readPolicy = .ok value := by cases value <;> rfl
  rw [named, Except.ok.injEq]

/-- A severity is read off its name. -/
theorem readLevel_text_iff (name : String) (level : Level) :
    (text name).readLevel = .ok level ↔ name = level.name := by
  constructor
  · intro read
    simp only [readLevel, Level.ofName?] at read
    split at read
    next found =>
      have named := List.find?_some found
      rw [decide_eq_true_eq] at named
      rw [← named, Except.ok.inj read]
    next => cases read
  · rintro rfl
    cases level <;> rfl

end Setting

namespace Settings

variable {α : Type} {settings : Settings} {name : String}

/-- A field with a setting is read off it. -/
theorem field_of_lookup {setting : Setting}
    (given : settings.entries.lookup name = some setting) (default : α)
    (read : Setting → Except SettingProblem α) (value : α) :
    settings.field name default read = .ok value ↔ read setting = .ok value := by
  simp only [field, given]
  cases read setting <;> simp

/-- A field without a setting has its default. -/
theorem field_of_unlisted (absent : settings.entries.lookup name = none) (default : α)
    (read : Setting → Except SettingProblem α) :
    settings.field name default read = .ok default := by
  simp only [field, absent]

/-- A configuration is read exactly if each of its fields is. -/
theorem read_ok_iff (settings : Settings) (config : Config) :
    settings.read = .ok config ↔
      settings.field "delay_timer" 0 Setting.readByte = .ok config.delayTimer ∧
      settings.field "sound_timer" 0 Setting.readByte = .ok config.soundTimer ∧
      settings.field "error_policy" .halt Setting.readPolicy = .ok config.errorPolicy ∧
      settings.field "modern_mode" true Setting.readFlag = .ok config.modern ∧
      settings.field "seed" 0 Setting.readInteger = .ok config.seed ∧
      settings.field "timer_rate_hz" ⟨Layout.timerRate, by decide⟩ Setting.readPositive =
        .ok ⟨config.timerRate, config.ratePositive⟩ ∧
      settings.field "log_level" .info Setting.readLevel = .ok config.logLevel ∧
      settings.field "trace" false Setting.readFlag = .ok config.trace := by
  constructor
  · intro read
    simp only [Settings.read] at read
    split at read
    · cases read
      refine ⟨?_, ?_, ?_, ?_, ?_, ?_, ?_, ?_⟩ <;> assumption
    · cases read
  · rintro ⟨delay, sound, policy, modern, seed, rate, level, trace⟩
    simp only [Settings.read, delay, sound, policy, modern, seed, rate, level, trace]

end Settings

namespace CommandLine

/-- An option is read as a byte exactly if that is its value. -/
theorem readByte_settingOf_iff (value : Option Int) (byte : UInt8) :
    (settingOf .integer value).readByte = .ok byte ↔ value = some (byte.toNat : Int) := by
  cases value with
  | none => exact iff_of_false (by rintro ⟨⟩) (Option.some_ne_none _).symm
  | some value =>
      rw [Option.some_inj]
      exact Setting.readByte_integer_iff value byte

/-- An option is read as an integer exactly if that is its value. -/
theorem readInteger_settingOf_iff (value : Option Int) (integer : Int) :
    (settingOf .integer value).readInteger = .ok integer ↔ value = some integer := by
  cases value with
  | none => exact iff_of_false (by rintro ⟨⟩) (Option.some_ne_none _).symm
  | some value =>
      change Except.ok value = .ok integer ↔ _
      rw [Option.some_inj, Except.ok.injEq]

/-- An option is read as a policy exactly if that is its value. -/
theorem readPolicy_settingOf_iff (value : Option ErrorPolicy) (policy : ErrorPolicy) :
    (settingOf .text (value.map ErrorPolicy.name)).readPolicy = .ok policy ↔
      value = some policy := by
  cases value with
  | none => exact iff_of_false (by rintro ⟨⟩) (Option.some_ne_none _).symm
  | some value =>
      rw [Option.some_inj]
      exact Setting.readPolicy_name_iff value policy

namespace Options

/-- This says that a configuration is the one that options ask for. -/
structure Configures (options : Options) (config : Config) : Prop where
  delayTimer : options.delayTimer = some (config.delayTimer.toNat : Int)
  soundTimer : options.soundTimer = some (config.soundTimer.toNat : Int)
  errorPolicy : options.errorPolicy = some config.errorPolicy
  modern : (!options.legacy) = config.modern
  seed : options.seed = some config.seed
  timerRate : config.timerRate = 60
  traced : options.trace = true → config.logLevel = .debug
  named : options.trace = false →
    ∃ name, options.logLevel = some name ∧ Level.capitals name = config.logLevel.name
  trace : options.trace = config.trace

/-- The settings of options are read field by field. -/
theorem read_settings_iff (options : Options) (levelName : String) (config : Config) :
    (options.settings levelName).read = .ok config ↔
      options.delayTimer = some (config.delayTimer.toNat : Int) ∧
      options.soundTimer = some (config.soundTimer.toNat : Int) ∧
      options.errorPolicy = some config.errorPolicy ∧
      (!options.legacy) = config.modern ∧
      options.seed = some config.seed ∧
      60 = config.timerRate ∧
      levelName = config.logLevel.name ∧
      options.trace = config.trace := by
  refine (Settings.read_ok_iff _ _).trans (and_congr ?delay (and_congr ?sound (and_congr ?policy
    (and_congr ?modern (and_congr ?seed (and_congr ?rate (and_congr ?level ?trace)))))))
  case delay => exact (Settings.field_of_lookup rfl _ _ _).trans (readByte_settingOf_iff _ _)
  case sound => exact (Settings.field_of_lookup rfl _ _ _).trans (readByte_settingOf_iff _ _)
  case policy => exact (Settings.field_of_lookup rfl _ _ _).trans (readPolicy_settingOf_iff _ _)
  case modern =>
    refine (Settings.field_of_lookup rfl _ _ _).trans ?_
    rw [Setting.readFlag, Except.ok.injEq]
  case seed => exact (Settings.field_of_lookup rfl _ _ _).trans (readInteger_settingOf_iff _ _)
  case rate =>
    rw [Settings.field_of_unlisted rfl, Except.ok.injEq, Subtype.mk.injEq]
    rfl
  case level => exact (Settings.field_of_lookup rfl _ _ _).trans (Setting.readLevel_text_iff _ _)
  case trace =>
    refine (Settings.field_of_lookup rfl _ _ _).trans ?_
    rw [Setting.readFlag, Except.ok.injEq]

/-- The level at which options log is a severity exactly if a trace asks for it or its name does. -/
theorem levelName_iff (options : Options) (level : Level) :
    options.levelName = .ok level.name ↔
      (options.trace = true → level = .debug) ∧
        (options.trace = false →
          ∃ name, options.logLevel = some name ∧ Level.capitals name = level.name) := by
  unfold levelName
  cases options.trace with
  | true => cases level <;> simp [Level.name]
  | false => cases options.logLevel <;> simp

/-- The settings of options are read as the configuration that the options ask for. -/
theorem configures_iff (options : Options) (config : Config) :
    options.Configures config ↔
      ∃ levelName, options.levelName = .ok levelName ∧
        (options.settings levelName).read = .ok config := by
  constructor
  · intro asked
    have named := (options.levelName_iff config.logLevel).mpr ⟨asked.traced, asked.named⟩
    exact ⟨_, named, (options.read_settings_iff _ config).mpr
      ⟨asked.delayTimer, asked.soundTimer, asked.errorPolicy, asked.modern, asked.seed,
        asked.timerRate.symm, rfl, asked.trace⟩⟩
  · rintro ⟨levelName, named, read⟩
    obtain ⟨delayTimer, soundTimer, errorPolicy, modern, seed, timerRate, rfl, trace⟩ :=
      (options.read_settings_iff levelName config).mp read
    obtain ⟨traced, named⟩ := (options.levelName_iff config.logLevel).mp named
    exact
      { delayTimer, soundTimer, errorPolicy, modern, seed, timerRate := timerRate.symm, traced,
        named, trace }

/-- Options have one configuration at most. -/
theorem Configures.unique {options : Options} {config other : Config}
    (asked : options.Configures config) (others : options.Configures other) : other = config := by
  obtain ⟨levelName, named, read⟩ := (options.configures_iff config).mp asked
  obtain ⟨otherName, namedOther, readOther⟩ := (options.configures_iff other).mp others
  cases named.symm.trans namedOther
  exact Except.ok.inj (readOther.symm.trans read)

/-- Options that leave the machine and its observers alone ask for the usual configuration. -/
theorem configures_usual (cycles : Option Int) (ips : Option Binary64) (ascii : Bool) :
    ({ cycles, ips, ascii } : Options).Configures {} where
  delayTimer := rfl
  soundTimer := rfl
  errorPolicy := rfl
  modern := rfl
  seed := rfl
  timerRate := rfl
  traced := by simp
  named _ := ⟨_, rfl, by decide⟩
  trace := rfl

/-- This lists what is wrong with options that no configuration has. -/
inductive Misconfigures (options : Options) : Prop where
  | delayTimer (outside : ∀ value, options.delayTimer = some value → value < 0 ∨ 255 < value)
  | soundTimer (outside : ∀ value, options.soundTimer = some value → value < 0 ∨ 255 < value)
  | errorPolicy (cleared : options.errorPolicy = none)
  | logLevel (untraced : options.trace = false) (name : String)
      (given : options.logLevel = some name)
      (unknown : ∀ level : Level, Level.capitals name ≠ level.name)

/-- This says that neither a trace nor a name asks for a level. -/
structure Unlevelled (options : Options) : Prop where
  untraced : options.trace = false
  cleared : options.logLevel = none

/-- An option that is not outside of the bytes has a byte as its value. -/
theorem exists_byte {value : Option Int}
    (inside : ¬ ∀ number, value = some number → number < 0 ∨ 255 < number) :
    ∃ byte : UInt8, value = some (byte.toNat : Int) := by
  simp only [Classical.not_forall, not_or, Int.not_lt] at inside
  obtain ⟨number, rfl, nonneg, small⟩ := inside
  refine ⟨.ofInt number, ?_⟩
  rw [toNat_byte_ofInt]
  congr 1
  omega

/-- Options with a configuration ask for a level. -/
theorem Configures.levelled {options : Options} {config : Config}
    (asked : options.Configures config) : ¬ options.Unlevelled := by
  rintro ⟨untraced, cleared⟩
  obtain ⟨name, given, _⟩ := asked.named untraced
  rw [cleared] at given
  cases given

/-- Nothing is wrong with options that have a configuration. -/
theorem Configures.not_misconfigures {options : Options} {config : Config}
    (asked : options.Configures config) : ¬ options.Misconfigures := by
  intro wrong
  cases wrong with
  | delayTimer outside =>
      have small := config.delayTimer.toNat_lt
      have wide := outside _ asked.delayTimer
      omega
  | soundTimer outside =>
      have small := config.soundTimer.toNat_lt
      have wide := outside _ asked.soundTimer
      omega
  | errorPolicy cleared =>
      rw [asked.errorPolicy] at cleared
      cases cleared
  | logLevel untraced name given unknown =>
      obtain ⟨other, same, named⟩ := asked.named untraced
      rw [given] at same
      cases same
      exact unknown _ named

/-- Options that ask for a level name one. -/
theorem exists_levelName {options : Options} (levelled : ¬ options.Unlevelled) :
    ∃ name, options.levelName = .ok name := by
  unfold levelName
  cases trace : options.trace with
  | true => exact ⟨_, rfl⟩
  | false =>
      cases given : options.logLevel with
      | some name => exact ⟨_, rfl⟩
      | none => exact absurd ⟨trace, given⟩ levelled

/-- The level that options ask for is a severity unless something is wrong with them. -/
theorem exists_level {options : Options} (levelled : ¬ options.Unlevelled)
    (right : ¬ options.Misconfigures) :
    ∃ level : Level, (options.trace = true → level = .debug) ∧
      (options.trace = false →
        ∃ name, options.logLevel = some name ∧ Level.capitals name = level.name) := by
  cases trace : options.trace with
  | true => exact ⟨.debug, fun _ => rfl, by simp⟩
  | false =>
      obtain ⟨name, given⟩ := Option.ne_none_iff_exists'.mp
        fun cleared => levelled ⟨trace, cleared⟩
      by_contra unknown
      apply right
      apply Misconfigures.logLevel trace name given
      intro level same
      exact unknown ⟨level, by simp, fun _ => ⟨name, given, same⟩⟩

/-- Options that ask for a level and a seed have a configuration unless something is wrong with
them. -/
theorem exists_configures {options : Options} {seed : Int} (seeded : options.seed = some seed)
    (levelled : ¬ options.Unlevelled) (right : ¬ options.Misconfigures) :
    ∃ config, options.Configures config := by
  obtain ⟨delayTimer, delay⟩ := exists_byte fun outside => right (.delayTimer outside)
  obtain ⟨soundTimer, sound⟩ := exists_byte fun outside => right (.soundTimer outside)
  obtain ⟨errorPolicy, policy⟩ := Option.ne_none_iff_exists'.mp
    fun cleared => right (.errorPolicy cleared)
  obtain ⟨logLevel, traced, named⟩ := exists_level levelled right
  exact ⟨
    { delayTimer, soundTimer, errorPolicy, modern := !options.legacy, seed, logLevel,
      trace := options.trace },
    { delayTimer := delay, soundTimer := sound, errorPolicy := policy, modern := rfl,
      seed := seeded, timerRate := rfl, traced, named, trace := rfl }⟩

end Options

end CommandLine

end Chip8
