import FractionCalculator.Proofs.Session.TypedFlags
import FractionCalculator.Proofs.Settings.Fields
import FractionCalculator.Proofs.Text.LetterCase

namespace FractionCalculator

namespace TypedFlag

def field : TypedFlag → SettingsField
  | mixed => .renderMode
  | logLevel _ => .logLevel
  | noHistory => .historyFile

-- What says the same in the variable of the field.
def text : TypedFlag → String
  | mixed => "mixed"
  | logLevel value => value
  | noHistory => ""

-- The text that stands for a field after all flags, the last of several.
def lastText? (flags : List TypedFlag) (field : SettingsField) : Option String :=
  ((flags.filter fun flag => flag.field = field).getLast?).map text

theorem lastText?_eq_none {flags : List TypedFlag} {field : SettingsField}
    (h : ∀ flag ∈ flags, flag.field ≠ field) : lastText? flags field = none := by
  have hnil : (flags.filter fun flag => flag.field = field) = [] := by simpa using h
  rw [lastText?, hnil]
  rfl

theorem lastText?_filter {flags : List TypedFlag} {field other : SettingsField}
    (h : field ≠ other) :
    lastText? (flags.filter fun flag => flag.field ≠ other) field = lastText? flags field := by
  have hfilter : ∀ flag : TypedFlag,
      (decide (flag.field = field) && decide (flag.field ≠ other)) =
        decide (flag.field = field) := by
    intro flag
    by_cases hfield : flag.field = field <;> simp [hfield, h]
  rw [lastText?, List.filter_filter]
  simp only [hfilter]
  rfl

-- One flag as it takes effect.
def take (a : Arguments) : TypedFlag → Except ArgumentsStop Arguments
  | mixed => .ok { a with mixed := true }
  | logLevel value => a.setLevel value
  | noHistory => .ok { a with noHistory := true }

end TypedFlag

namespace Environment

def set (env : Environment) (field : SettingsField) (text : String) : Environment :=
  (field.variableName, text) :: env.filter (·.1 != field.variableName)

-- The variables with those set that say what flags say.
def withFlags (env : Environment) (flags : List TypedFlag) : Environment :=
  flags.foldl (fun env flag => env.set flag.field flag.text) env

theorem variableName_inj {field other : SettingsField} :
    field.variableName = other.variableName ↔ field = other := by
  refine ⟨fun h => ?_, congrArg _⟩
  cases field <;> cases other <;> first | rfl | simp [SettingsField.variableName] at h

theorem lookup_filter_ne {name other : String} (h : other ≠ name) (env : Environment) :
    (env.filter (·.1 != name)).lookup other = env.lookup other := by
  induction env with
  | nil => rfl
  | cons entry env ih =>
      obtain ⟨key, value⟩ := entry
      by_cases hkey : key = name
      · have hother : (other == key) = false := beq_false_of_ne (hkey ▸ h)
        rw [List.filter_cons_of_neg (by simp [hkey]), ih, List.lookup_cons, hother]
      · rw [List.filter_cons_of_pos (by simp [hkey]), List.lookup_cons, List.lookup_cons, ih]

theorem text?_set (env : Environment) (field other : SettingsField) (text : String) :
    (env.set field text).text? other = if other = field then some text else env.text? other := by
  rw [text?, set, List.lookup_cons]
  split_ifs with h
  · simp [h]
  · have hname : other.variableName ≠ field.variableName := mt variableName_inj.mp h
    rw [beq_false_of_ne hname]
    exact lookup_filter_ne hname env

theorem withFlags_append (env : Environment) (flags : List TypedFlag) (flag : TypedFlag) :
    env.withFlags (flags ++ [flag]) = (env.withFlags flags).set flag.field flag.text := by
  rw [withFlags, List.foldl_append]
  rfl

theorem text?_withFlags (env : Environment) (flags : List TypedFlag) (field : SettingsField) :
    (env.withFlags flags).text? field =
      (TypedFlag.lastText? flags field).or (env.text? field) := by
  induction flags using List.reverseRecOn with
  | nil => rfl
  | append_singleton flags flag ih =>
      rw [withFlags_append, text?_set, ih, TypedFlag.lastText?, TypedFlag.lastText?,
        List.filter_append]
      by_cases h : flag.field = field
      · simp [h]
      · simp [h, Ne.symm h]

end Environment

namespace Arguments

variable {a b : Arguments}

theorem setLevel_eq_ok_iff {value : String} : a.setLevel value = .ok b ↔
    (value = "--" ∧ b = { a with logLevel := none }) ∨
    (value ≠ "--" ∧ ∃ level : LogLevel, level.name = Text.toUpper value ∧
      b = { a with logLevel := some level }) := by
  simp only [setLevel, ← LogLevel.ofName?_eq_some_iff]
  split_ifs with hdashes
  · simp [hdashes, eq_comm]
  · cases LogLevel.ofName? (Text.toUpper value) <;> simp [hdashes, eq_comm]

-- Collecting comes to taking the flags in front of the first word.
theorem exists_take_of_collect {unrecognized : List String} {readings : List (String × Reading)}
    (h : collect a unrecognized readings = .ok b) :
    ∃ c words, (TypedFlag.ofReadings readings).foldlM TypedFlag.take a = .ok c ∧
      b = { c with words := words } := by
  fun_induction collect a unrecognized readings with
  | case1 | case3 | case5 =>
      cases h
      exact ⟨_, _, rfl, rfl⟩
  | case7 a unrecognized argument rest ih => exact ih h
  | case10 a unrecognized argument value rest ih
  | case11 a unrecognized argument value rest ih =>
      obtain ⟨t, ht, h⟩ := bind_eq_ok.mp h
      obtain ⟨c, words, hc, rfl⟩ := ih t h
      exact ⟨c, words, bind_eq_ok.mpr ⟨t, ht, hc⟩, rfl⟩
  | case15 a unrecognized argument rest ih | case16 a unrecognized argument rest ih => exact ih h
  | _ => cases h

theorem exists_take_of_parse {arguments : List String} (h : parse arguments = .ok a) :
    ∃ c words, (TypedFlag.ofArguments arguments).foldlM TypedFlag.take start = .ok c ∧
      a = { c with words := words } := by
  rw [parse] at h
  obtain ⟨readings, hreadings, h⟩ := bind_eq_ok.mp h
  rw [mapError_eq_ok_iff] at hreadings
  rw [TypedFlag.ofArguments, hreadings]
  exact exists_take_of_collect h

end Arguments

namespace TypedFlag

variable {a b : Arguments} {flag : TypedFlag}

theorem take_sameIn (h : take a flag = .ok b) (s : Settings) {field : SettingsField}
    (hfield : field ≠ flag.field) : (a.apply s).SameIn (b.apply s) field := by
  cases flag with
  | mixed =>
      cases h
      cases field <;> first | exact absurd rfl hfield | rfl
  | logLevel value =>
      rcases Arguments.setLevel_eq_ok_iff.mp h with ⟨-, rfl⟩ | ⟨-, _, -, rfl⟩ <;>
        cases field <;> first | exact absurd rfl hfield | rfl
  | noHistory =>
      cases h
      cases field <;> first | exact absurd rfl hfield | rfl

theorem take_logLevel (h : take a flag = .ok b) (hfield : .logLevel ≠ flag.field) :
    b.logLevel = a.logLevel := by
  cases flag with
  | logLevel value => exact absurd rfl hfield
  | mixed | noHistory =>
      cases h
      rfl

-- What a flag sets is what its text stands for, unless it is a level of two dashes.
theorem take_holds (h : take a flag = .ok b) (home : Home) (s : Settings) :
    (¬ flag.field.Refuses flag.text ∧ (b.apply s).Holds home flag.field (some flag.text)) ∨
      flag = logLevel "--" ∧ b.logLevel = none := by
  cases flag with
  | mixed =>
      cases h
      have hname : RenderMode.mixed.name = Text.toLower (Text.trim "mixed") := by decide +kernel
      exact .inl ⟨Settings.checks_mode.accepts (Settings.checkMode_eq_ok_iff.mpr hname), hname⟩
  | noHistory =>
      cases h
      exact .inl ⟨by decide +kernel, rfl⟩
  | logLevel value =>
      rcases Arguments.setLevel_eq_ok_iff.mp h with ⟨rfl, rfl⟩ | ⟨-, level, hname, rfl⟩
      · exact .inr ⟨rfl, rfl⟩
      · have hblanks : Text.NoBlank value.toList :=
          Text.noBlank_of_toUpper (hname ▸ by cases level <;> decide)
        rw [← Text.trim_of_noBlank hblanks] at hname
        have hcheck := Settings.checkLevel_eq_ok_iff.mpr hname
        exact .inl ⟨Settings.checks_level.accepts hcheck, hname⟩

-- The levels that were taken, each a name as soon as it is written in capitals. The last one is in
-- force.
structure LevelsTaken (flags : List TypedFlag) (a : Arguments) : Prop where
  known : ∀ value, logLevel value ∈ flags → value ≠ "--" →
    ∃ level : LogLevel, level.name = Text.toUpper value
  last : ∀ value, lastText? flags .logLevel = some value → value ≠ "--" →
    ∃ level : LogLevel, level.name = Text.toUpper value ∧ a.logLevel = some level

theorem LevelsTaken.take {flags : List TypedFlag} (h : LevelsTaken flags a)
    (htake : TypedFlag.take a flag = .ok b) : LevelsTaken (flags ++ [flag]) b := by
  by_cases hfield : flag.field = .logLevel
  · cases flag with
    | mixed | noHistory => cases hfield
    | logLevel typed =>
        have hlast : lastText? (flags ++ [logLevel typed]) .logLevel = some typed := by
          simp [lastText?, List.filter_append, field, text]
        have htyped : typed ≠ "--" → ∃ level : LogLevel, level.name = Text.toUpper typed ∧
            b.logLevel = some level := fun hdashes => by
          rcases Arguments.setLevel_eq_ok_iff.mp htake with ⟨rfl, -⟩ | ⟨-, level, hname, rfl⟩
          · exact absurd rfl hdashes
          · exact ⟨level, hname, rfl⟩
        constructor
        · intro value hmem hdashes
          rcases List.mem_append.mp hmem with hmem | hmem
          · exact h.known value hmem hdashes
          · cases List.mem_singleton.mp hmem
            obtain ⟨level, hname, -⟩ := htyped hdashes
            exact ⟨level, hname⟩
        · intro value hvalue hdashes
          cases hlast.symm.trans hvalue
          exact htyped hdashes
  · have hlast : lastText? (flags ++ [flag]) .logLevel = lastText? flags .logLevel := by
      simp [lastText?, List.filter_append, hfield]
    constructor
    · intro value hmem
      refine h.known value ((List.mem_append.mp hmem).resolve_right fun hmem => hfield ?_)
      rw [← List.mem_singleton.mp hmem]
      rfl
    · rw [hlast, take_logLevel htake (Ne.symm hfield)]
      exact h.last

theorem LevelsTaken.of_parse {arguments : List String} (h : Arguments.parse arguments = .ok a) :
    LevelsTaken (ofArguments arguments) a := by
  obtain ⟨c, words, hc, rfl⟩ := Arguments.exists_take_of_parse h
  have hrun : LevelsTaken (ofArguments arguments) c :=
    foldlM_induction (motive := fun done b => LevelsTaken done b)
      (fun done s flag s' hdone htake => hdone.take htake) _ ⟨nofun, nofun⟩ hc
  exact ⟨hrun.known, hrun.last⟩

end TypedFlag

-- The arguments lead to what the variables say, except for a level variable of two dashes where the
-- arguments hold no level.
structure Follows (home : Home) (settings : Settings) (env : Environment) (a : Arguments) :
    Prop where
  housed : ¬ env.Homeless home
  fields : ∀ field,
    (¬ env.Offends field ∧ (a.apply settings).Holds home field (env.text? field)) ∨
      field = .logLevel ∧ env.text? .logLevel = some "--" ∧ a.logLevel = none

namespace Follows

variable {home : Home} {settings : Settings} {env : Environment} {a b : Arguments}

theorem start (h : Settings.ofEnvironment home env = .ok settings) :
    Follows home settings env Arguments.start := by
  obtain ⟨hhoused, hfields⟩ := (Settings.ofEnvironment_eq_ok_iff home env settings).mp h
  exact ⟨hhoused, fun field => .inl (hfields field)⟩

theorem housed_set {flag : TypedFlag} (h : ¬ env.Homeless home) :
    ¬ (env.set flag.field flag.text).Homeless home := by
  rintro (huser | ⟨text, htext, hnobody⟩)
  · exact h (.inl huser)
  · rw [Environment.text?_set] at htext
    cases flag with
    | noHistory =>
        cases htext
        obtain ⟨account, haccount, -⟩ := hnobody
        cases haccount
    | mixed => exact h (.inr ⟨text, htext, hnobody⟩)
    | logLevel value => exact h (.inr ⟨text, htext, hnobody⟩)

-- A flag and its variable keep in step.
theorem take {flag : TypedFlag} (h : Follows home settings env a)
    (htake : TypedFlag.take a flag = .ok b) :
    Follows home settings (env.set flag.field flag.text) b where
  housed := housed_set h.housed
  fields field := by
    by_cases hfield : field = flag.field
    · subst hfield
      have htext : (env.set flag.field flag.text).text? flag.field = some flag.text := by
        rw [Environment.text?_set, if_pos rfl]
      rcases TypedFlag.take_holds htake home settings with ⟨haccepts, hholds⟩ | ⟨rfl, hnone⟩
      · refine .inl ⟨?_, htext ▸ hholds⟩
        rintro ⟨text, hmem, hrefuses⟩
        cases htext.symm.trans hmem
        exact haccepts hrefuses
      · exact .inr ⟨rfl, htext, hnone⟩
    · have htext : (env.set flag.field flag.text).text? field = env.text? field := by
        rw [Environment.text?_set, if_neg hfield]
      rw [Environment.Offends, htext]
      rcases h.fields field with ⟨haccepts, hholds⟩ | ⟨rfl, hdashes, hnone⟩
      · exact .inl ⟨haccepts, hholds.congr (TypedFlag.take_sameIn htake settings hfield)⟩
      · exact .inr ⟨rfl, htext.trans hdashes,
          (TypedFlag.take_logLevel htake hfield).trans hnone⟩

theorem run {flags : List TypedFlag} (h : Follows home settings env a)
    (hrun : flags.foldlM TypedFlag.take a = .ok b) :
    Follows home settings (env.withFlags flags) b := by
  refine foldlM_induction (motive := fun done b => Follows home settings (env.withFlags done) b)
    (fun done s flag s' hdone htake => ?_) flags h hrun
  rw [Environment.withFlags_append]
  exact hdone.take htake

end Follows

-- What flags do is what their variables would do. Only the level of two dashes makes a difference:
-- the variable is refused, and the flag passes for none. Of the levels as typed, all the others are
-- names, and the last of them is the name of the level in force.
structure Mirrors (home : Home) (env : Environment) (settings : Settings)
    (flags : List TypedFlag) (a : Arguments) : Prop where
  ofEnvironment_eq : TypedFlag.lastText? flags .logLevel ≠ some "--" →
    Settings.ofEnvironment home (env.withFlags flags) = .ok (a.apply settings)
  dashes_refused : TypedFlag.lastText? flags .logLevel = some "--" →
    Settings.ofEnvironment home (env.withFlags flags) =
      .error (.refused [⟨.logLevel, .unknownLevel "--", some "--"⟩])
  dashes_dropped : TypedFlag.lastText? flags .logLevel = some "--" →
    Settings.ofEnvironment home (env.withFlags (flags.filter fun flag => flag.field ≠ .logLevel)) =
      .ok (a.apply settings)
  sameIn : ∀ field, (∀ flag ∈ flags, flag.field ≠ field) →
    settings.SameIn (a.apply settings) field
  level_known : (a.apply settings).logLevel.name ∈ ["CRITICAL", "ERROR", "WARNING", "INFO", "DEBUG"]
  typed_known : ∀ value, TypedFlag.logLevel value ∈ flags → value ≠ "--" →
    Text.toUpper value ∈ ["CRITICAL", "ERROR", "WARNING", "INFO", "DEBUG"]
  level_typed : ∀ value, TypedFlag.lastText? flags .logLevel = some value → value ≠ "--" →
    (a.apply settings).logLevel.name = Text.toUpper value

namespace Follows

variable {home : Home} {settings : Settings} {env : Environment} {flags : List TypedFlag}
  {a : Arguments}

theorem of_parse {arguments : List String}
    (hsettings : Settings.ofEnvironment home env = .ok settings)
    (h : Arguments.parse arguments = .ok a) :
    Follows home settings (env.withFlags (TypedFlag.ofArguments arguments)) a := by
  obtain ⟨c, words, hc, rfl⟩ := Arguments.exists_take_of_parse h
  obtain ⟨hhoused, hfields⟩ := (start hsettings).run hc
  exact ⟨hhoused, hfields⟩

theorem ofEnvironment_eq (h : Follows home settings env a)
    (hlevel : env.text? .logLevel ≠ some "--") :
    Settings.ofEnvironment home env = .ok (a.apply settings) := by
  refine (Settings.ofEnvironment_eq_ok_iff ..).mpr ⟨h.housed, fun field => ?_⟩
  rcases h.fields field with hfield | ⟨-, hdashes, -⟩
  · exact hfield
  · exact absurd hdashes hlevel

theorem offends_of_dashes (h : env.text? .logLevel = some "--") : env.Offends .logLevel :=
  ⟨"--", h, by decide +kernel⟩

theorem fields_of_ne (h : Follows home settings env a) {field : SettingsField}
    (hfield : field ≠ .logLevel) :
    ¬ env.Offends field ∧ (a.apply settings).Holds home field (env.text? field) :=
  (h.fields field).resolve_right fun hlevel => hfield hlevel.1

theorem logLevel_eq_none (h : Follows home settings env a)
    (hdashes : env.text? .logLevel = some "--") : a.logLevel = none := by
  rcases h.fields .logLevel with ⟨haccepts, -⟩ | ⟨-, -, hnone⟩
  · exact absurd (offends_of_dashes hdashes) haccepts
  · exact hnone

theorem ofEnvironment_eq_error (h : Follows home settings env a)
    (hdashes : env.text? .logLevel = some "--") : Settings.ofEnvironment home env =
      .error (.refused [⟨.logLevel, .unknownLevel "--", some "--"⟩]) := by
  have hreport : SettingsField.logLevel.report (env.text? .logLevel) =
      [⟨.logLevel, .unknownLevel "--", some "--"⟩] := by
    rw [hdashes]
    decide +kernel
  have hrest : ∀ field : SettingsField, field ≠ .logLevel → field.report (env.text? field) = [] :=
    fun field hfield => Environment.report_eq_nil (h.fields_of_ne hfield).1
  have hissues : env.issues = [⟨.logLevel, .unknownLevel "--", some "--"⟩] := by
    simp [Environment.issues, SettingsField.all, hreport, hrest]
  rw [← hissues]
  exact (Settings.ofEnvironment_eq_error_iff ..).mpr
    (.inr ⟨h.housed, ⟨_, offends_of_dashes hdashes⟩, rfl⟩)

-- Without the flags for the level, the level of the settings stays.
theorem ofEnvironment_dropped (hsettings : Settings.ofEnvironment home env = .ok settings)
    (h : Follows home settings (env.withFlags flags) a) (hnone : a.logLevel = none) :
    Settings.ofEnvironment home (env.withFlags (flags.filter fun flag => flag.field ≠ .logLevel)) =
      .ok (a.apply settings) := by
  obtain ⟨-, hfields⟩ := (Settings.ofEnvironment_eq_ok_iff home env settings).mp hsettings
  have hkept : ∀ field, field ≠ .logLevel →
      (env.withFlags (flags.filter fun flag => flag.field ≠ .logLevel)).text? field =
        (env.withFlags flags).text? field := fun field hfield => by
    rw [Environment.text?_withFlags, Environment.text?_withFlags,
      TypedFlag.lastText?_filter hfield]
  have hlevel : (env.withFlags (flags.filter fun flag => flag.field ≠ .logLevel)).text? .logLevel =
      env.text? .logLevel := by
    rw [Environment.text?_withFlags, TypedFlag.lastText?_eq_none (by simp)]
    rfl
  refine (Settings.ofEnvironment_eq_ok_iff ..).mpr ⟨?_, fun field => ?_⟩
  · have hhoused := h.housed
    rwa [Environment.Homeless, ← hkept .historyFile (by decide)] at hhoused
  · rw [Environment.Offends]
    by_cases hfield : field = .logLevel
    · subst hfield
      have hsame : settings.SameIn (a.apply settings) .logLevel := by
        simp [Settings.SameIn, Arguments.apply, hnone]
      rw [hlevel]
      exact ⟨(hfields .logLevel).1, (hfields .logLevel).2.congr hsame⟩
    · rw [hkept field hfield]
      exact h.fields_of_ne hfield

end Follows

-- However they are abbreviated and repeated, the flags that accepted arguments spell do to accepted
-- settings what their variables would do.
theorem flags_mirror_variables (home : Home) (env : Environment) (settings : Settings)
    (arguments : List String) (a : Arguments)
    (hsettings : Settings.ofEnvironment home env = .ok settings)
    (harguments : Arguments.parse arguments = .ok a) :
    (∀ flags, TypedFlag.Typed arguments flags ↔ flags = TypedFlag.ofArguments arguments) ∧
      Mirrors home env settings (TypedFlag.ofArguments arguments) a := by
  have htyped := TypedFlag.typed_ofArguments harguments
  have hlevels := TypedFlag.LevelsTaken.of_parse harguments
  have hfollows := Follows.of_parse hsettings harguments
  obtain ⟨-, hfields⟩ := (Settings.ofEnvironment_eq_ok_iff home env settings).mp hsettings
  have haccepted : env.text? .logLevel ≠ some "--" := fun hdashes =>
    (hfields .logLevel).1 (Follows.offends_of_dashes hdashes)
  have htext := env.text?_withFlags (TypedFlag.ofArguments arguments)
  have hdashes : (env.withFlags (TypedFlag.ofArguments arguments)).text? .logLevel = some "--" ↔
      TypedFlag.lastText? (TypedFlag.ofArguments arguments) .logLevel = some "--" := by
    rw [htext]
    cases TypedFlag.lastText? (TypedFlag.ofArguments arguments) .logLevel with
    | none => simpa using haccepted
    | some text => rfl
  refine ⟨fun flags => ⟨fun h => h.unique htyped, fun h => h ▸ htyped⟩, ?_⟩
  constructor
  case ofEnvironment_eq => exact fun h => hfollows.ofEnvironment_eq (mt hdashes.mp h)
  case dashes_refused => exact fun h => hfollows.ofEnvironment_eq_error (hdashes.mpr h)
  case dashes_dropped =>
    intro h
    exact hfollows.ofEnvironment_dropped hsettings (hfollows.logLevel_eq_none (hdashes.mpr h))
  case sameIn =>
    intro field hflags
    have hsame := htext field
    rw [TypedFlag.lastText?_eq_none hflags, Option.none_or] at hsame
    rcases hfollows.fields field with ⟨-, hholds⟩ | ⟨rfl, hlevel, -⟩
    · exact (hfields field).2.sameIn (hsame ▸ hholds)
    · exact absurd (hsame.symm.trans hlevel) haccepted
  case level_known => cases (a.apply settings).logLevel <;> decide
  case typed_known =>
    intro value hvalue hdashes
    obtain ⟨level, hname⟩ := hlevels.known value hvalue hdashes
    rw [← hname]
    cases level <;> decide
  case level_typed =>
    intro value hvalue hdashes
    obtain ⟨level, hname, hlevel⟩ := hlevels.last value hvalue hdashes
    rw [← hname, Arguments.apply, hlevel]
    rfl

-- A level given twice, the second time with a letter that only its capital form knows, and a level
-- taken back by two dashes.
theorem flags_mirror_variables_repeated :
    let env : Environment := [("FRACCALC_LOG_LEVEL", " error"), ("FRACCALC_HISTORY_FILE", "~/h"),
      ("FRACCALC_PROMPT", "> ")]
    let settings : Settings := ⟨.ratio, .error, some ⟨1, ["home", "user", "h"]⟩, "> "⟩
    let abbreviated := ["--log=critical", "--m", "--log-l", "ınfo", "--no", "1/2", "--mixed"]
    let takenBack := ["--log-level=debug", "--mixed", "--log-level=--"]
    Settings.ofEnvironment "/home/user" env = .ok settings ∧
      TypedFlag.ofArguments abbreviated =
        [.logLevel "critical", .mixed, .logLevel "ınfo", .noHistory] ∧
      Settings.ofEnvironment "/home/user" (env.withFlags (TypedFlag.ofArguments abbreviated)) =
        .ok ⟨.mixed, .info, none, "> "⟩ ∧
      Settings.ofEnvironment "/home/user" (env.withFlags [.mixed]) =
        .ok { settings with renderMode := .mixed } ∧
      (Arguments.parse takenBack).map (·.apply settings) =
        .ok { settings with renderMode := .mixed } := by
  intro env settings abbreviated takenBack
  have hsettings : Settings.ofEnvironment "/home/user" env = .ok settings := by decide +kernel
  have habbreviated : Arguments.parse abbreviated =
      .ok ⟨true, some .info, true, ["1/2", "--mixed"]⟩ := by decide +kernel
  have htakenBack : Arguments.parse takenBack = .ok ⟨true, none, false, []⟩ := by decide +kernel
  obtain ⟨-, hmirrors⟩ := flags_mirror_variables _ _ _ _ _ hsettings habbreviated
  obtain ⟨-, hdashes⟩ := flags_mirror_variables _ _ _ _ _ hsettings htakenBack
  refine ⟨hsettings, by decide +kernel, hmirrors.ofEnvironment_eq (by decide +kernel),
    hdashes.dashes_dropped (by decide +kernel), ?_⟩
  rw [htakenBack]
  rfl

-- A level of two dashes is refused as a variable, and passes for none as a flag.
theorem dashes_flag_ignored :
    let arguments := ["--log-level=--", "1/2"]
    ∃ settings a, Settings.ofEnvironment "/home/user" [] = .ok settings ∧
      Arguments.parse arguments = .ok a ∧
      Environment.withFlags [] (TypedFlag.ofArguments arguments) =
        [("FRACCALC_LOG_LEVEL", "--")] ∧
      a.apply settings = settings ∧
      Settings.ofEnvironment "/home/user" [("FRACCALC_LOG_LEVEL", "--")] =
        .error (.refused [⟨.logLevel, .unknownLevel "--", some "--"⟩]) :=
  ⟨Settings.default "/home/user", ⟨false, none, false, ["1/2"]⟩, by decide +kernel⟩

end FractionCalculator
