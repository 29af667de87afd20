import FractionCalculator.Proofs.Outcome
import FractionCalculator.Session.Arguments
import Mathlib.Data.List.Infix
import Mathlib.Data.List.TakeWhile

namespace FractionCalculator

-- A flag that was given, a level with its text as typed.
inductive TypedFlag
  | mixed
  | logLevel (value : String)
  | noHistory
deriving DecidableEq

-- The start of a long flag, or all of it. Three characters tell the flags apart.
def Abbreviates (name long : String) : Prop :=
  name.toList <+: long.toList ∧ 3 ≤ name.toList.length

-- An argument that gives a long flag, perhaps with a value attached to it.
def Spells (argument long : String) (attached : Option String) : Prop :=
  ∃ name, Abbreviates name long ∧ argument = attached.elim name fun value => name ++ "=" ++ value

namespace TypedFlag

def longs : List String :=
  ["--mixed", "--log-level", "--no-history"]

-- The flags in front of the expression, which begins with the first argument that spells none.
inductive Typed : List String → List TypedFlag → Prop
  | done : Typed [] []
  | expression {argument : String} {rest : List String}
      (h : ∀ long ∈ longs, ∀ attached, ¬ Spells argument long attached) :
      Typed (argument :: rest) []
  | mixed {argument : String} {rest : List String} {flags : List TypedFlag}
      (h : Spells argument "--mixed" none) (hrest : Typed rest flags) :
      Typed (argument :: rest) (mixed :: flags)
  | noHistory {argument : String} {rest : List String} {flags : List TypedFlag}
      (h : Spells argument "--no-history" none) (hrest : Typed rest flags) :
      Typed (argument :: rest) (noHistory :: flags)
  | attachedLevel {argument value : String} {rest : List String} {flags : List TypedFlag}
      (h : Spells argument "--log-level" (some value)) (hrest : Typed rest flags) :
      Typed (argument :: rest) (logLevel value :: flags)
  | nextLevel {argument value : String} {rest : List String} {flags : List TypedFlag}
      (h : Spells argument "--log-level" none) (hrest : Typed rest flags) :
      Typed (argument :: value :: rest) (logLevel value :: flags)

-- The flags in front of the first word.
def ofReadings : List (String × Reading) → List TypedFlag
  | (_, .flag .mixed none) :: rest => mixed :: ofReadings rest
  | (_, .flag .noHistory none) :: rest => noHistory :: ofReadings rest
  | (_, .flag .logLevel (some value)) :: rest => logLevel value :: ofReadings rest
  | (_, .flag .logLevel none) :: (value, .word) :: rest => logLevel value :: ofReadings rest
  | (_, .unknown) :: rest => ofReadings rest
  | _ => []

def ofArguments (arguments : List String) : List TypedFlag :=
  match Reading.ofArguments arguments with
  | .ok readings => ofReadings readings
  | .error _ => []

end TypedFlag

namespace Text

variable {mark : Char} {cs before after : List Char}

theorem cut_append (h : mark ∉ before) :
    cut mark (before ++ mark :: after) = some (before, after) := by
  have hbefore : ∀ c ∈ before, (c != mark) = true := fun c hc => by
    rw [bne_iff_ne]
    rintro rfl
    exact h hc
  rw [cut, List.dropWhile_append_of_pos hbefore, List.takeWhile_append_of_pos hbefore]
  simp

theorem cut_of_not_mem (h : mark ∉ cs) : cut mark cs = none := by
  have hnil : cs.dropWhile (· != mark) = [] := by
    rw [List.dropWhile_eq_nil_iff]
    intro c hc
    rw [bne_iff_ne]
    rintro rfl
    exact h hc
  rw [cut, hnil]

end Text

namespace Flag

-- Shorter beginnings fit all flags, and longer ones only this.
theorem filter_all_eq_singleton_iff {flag : Flag} {name : List Char} :
    (all.filter fun other => name.isPrefixOf other.long.toList) = [flag] ↔
      name <+: flag.long.toList ∧ 3 ≤ name.length := by
  have hinits : ∀ name ∈ flag.long.toList.inits,
      (all.filter fun other => name.isPrefixOf other.long.toList) = [flag] ↔ 3 ≤ name.length := by
    cases flag <;> decide +kernel
  constructor
  · intro h
    have hmem : flag ∈ all.filter fun other => name.isPrefixOf other.long.toList := by
      rw [h]
      exact List.mem_cons_self
    have hbegins : name <+: flag.long.toList := by simpa using (List.mem_filter.mp hmem).2
    exact ⟨hbegins, (hinits name ((List.mem_inits _ _).mpr hbegins)).mp h⟩
  · rintro ⟨hbegins, hlength⟩
    exact (hinits name ((List.mem_inits _ _).mpr hbegins)).mpr hlength

theorem not_mem_long (flag : Flag) : '=' ∉ flag.long.toList := by
  cases flag <;> decide

theorem long_begins_with_dashes (flag : Flag) : ['-', '-'] <+: flag.long.toList := by
  cases flag <;> decide

end Flag

namespace Abbreviates

variable {name : String} {flag : Flag}

theorem not_mem (h : Abbreviates name flag.long) : '=' ∉ name.toList :=
  fun hmem => flag.not_mem_long (h.1.subset hmem)

theorem begins_with_dashes (h : Abbreviates name flag.long) : ['-', '-'] <+: name.toList :=
  List.prefix_of_prefix_length_le flag.long_begins_with_dashes h.1 (Nat.le_of_succ_le h.2)

end Abbreviates

theorem Spells.begins_with_dashes {argument : String} {flag : Flag} {attached : Option String}
    (h : Spells argument flag.long attached) : ['-', '-'] <+: argument.toList := by
  obtain ⟨name, hname, rfl⟩ := h
  cases attached with
  | none => exact hname.begins_with_dashes
  | some value =>
      rw [Option.elim_some, String.toList_append, String.toList_append, List.append_assoc]
      exact hname.begins_with_dashes.trans (List.prefix_append _ _)

namespace Reading

variable {argument : String} {flag : Flag} {attached : Option String}

theorem ofOther_ne_flag (cs : List Char) : ofOther cs ≠ .flag flag attached := by
  unfold ofOther
  split_ifs <;> nofun

theorem ofDash_ne_flag (cs : List Char) : ofDash cs ≠ .flag flag attached := by
  unfold ofDash
  split
  · split_ifs
    · split <;> nofun
    · exact ofOther_ne_flag _
  · nofun

theorem ofName_eq_flag_iff {name : List Char} {value : Option String} :
    ofName argument name value = .ok (.flag flag attached) ↔
      Abbreviates (String.ofList name) flag.long ∧ value = attached := by
  rw [Abbreviates, String.toList_ofList, ← Flag.filter_all_eq_singleton_iff, ofName]
  split
  · rename_i hnil
    simp [hnil, ofOther_ne_flag]
  · rename_i hunique
    simp [hunique]
  · rename_i hnot
    constructor
    · nofun
    · rintro ⟨h, -⟩
      exact absurd h (hnot flag)

theorem ofDashes_eq_flag_iff :
    ofDashes argument = .ok (.flag flag attached) ↔ Spells argument flag.long attached := by
  rw [ofDashes]
  constructor
  · intro h
    by_cases hmem : '=' ∈ argument.toList
    · obtain ⟨before, after, hcs, hbefore⟩ := List.eq_append_cons_of_mem hmem
      rw [hcs, Text.cut_append hbefore] at h
      obtain ⟨hname, rfl⟩ := ofName_eq_flag_iff.mp h
      refine ⟨_, hname, ?_⟩
      rw [← String.toList_inj, hcs]
      simp
    · rw [Text.cut_of_not_mem hmem] at h
      obtain ⟨hname, rfl⟩ := ofName_eq_flag_iff.mp h
      exact ⟨_, hname, String.ofList_toList.symm⟩
  · rintro ⟨name, hname, rfl⟩
    cases attached with
    | none =>
        rw [Option.elim_none, Text.cut_of_not_mem hname.not_mem]
        exact ofName_eq_flag_iff.mpr ⟨by rwa [String.ofList_toList], rfl⟩
    | some value =>
        have hcs : (name ++ "=" ++ value).toList = name.toList ++ '=' :: value.toList := by simp
        rw [Option.elim_some, hcs, Text.cut_append hname.not_mem]
        exact ofName_eq_flag_iff.mpr ⟨by rwa [String.ofList_toList], by rw [String.ofList_toList]⟩

-- An argument reads as a flag exactly when it spells the flag.
theorem ofArgument_eq_flag_iff :
    ofArgument argument = .ok (.flag flag attached) ↔ Spells argument flag.long attached := by
  constructor
  · intro h
    unfold ofArgument at h
    split at h
    · exact ofDashes_eq_flag_iff.mp h
    · exact absurd (Except.ok.inj h) (ofDash_ne_flag _)
    · cases h
  · intro h
    obtain ⟨rest, hrest⟩ := h.begins_with_dashes
    have hdashes : ofArgument argument = ofDashes argument := by
      rw [ofArgument, ← hrest]
      rfl
    rw [hdashes]
    exact ofDashes_eq_flag_iff.mpr h

theorem ofArguments_eq_nil {arguments : List String} (h : ofArguments arguments = .ok []) :
    arguments = [] := by
  cases arguments with
  | nil => rfl
  | cons first rest =>
      rw [ofArguments] at h
      split_ifs at h
      · cases h
      · obtain ⟨reading, -, h⟩ := bind_eq_ok.mp h
        obtain ⟨readings, -, h⟩ := bind_eq_ok.mp h
        cases h

theorem ofArguments_eq_cons {arguments : List String} {reading : Reading}
    {readings : List (String × Reading)}
    (h : ofArguments arguments = .ok ((argument, reading) :: readings)) :
    ∃ rest, arguments = argument :: rest ∧
      (argument = "--" ∧ reading = .separator ∨
        ofArgument argument = .ok reading ∧ ofArguments rest = .ok readings) := by
  cases arguments with
  | nil => cases h
  | cons first rest =>
      rw [ofArguments] at h
      split_ifs at h with hseparator
      · cases h
        exact ⟨rest, rfl, .inl ⟨hseparator, rfl⟩⟩
      · obtain ⟨reading', hreading, h⟩ := bind_eq_ok.mp h
        obtain ⟨readings', hreadings, h⟩ := bind_eq_ok.mp h
        cases h
        exact ⟨rest, rfl, .inr ⟨hreading, hreadings⟩⟩

end Reading

namespace TypedFlag

open Reading (ofArgument ofArgument_eq_flag_iff ofArguments_eq_cons)

variable {argument : String} {arguments rest : List String} {flags others : List TypedFlag}

theorem exists_flag_of_mem_longs {long : String} (h : long ∈ longs) :
    ∃ flag : Flag, flag.long = long := by
  simp only [longs, List.mem_cons, List.not_mem_nil, or_false] at h
  rcases h with rfl | rfl | rfl
  exacts [⟨.mixed, rfl⟩, ⟨.logLevel, rfl⟩, ⟨.noHistory, rfl⟩]

theorem exists_spells {flag : Flag} {attached : Option String} {readings : List (String × Reading)}
    (h : Reading.ofArguments arguments = .ok ((argument, .flag flag attached) :: readings)) :
    ∃ rest, arguments = argument :: rest ∧ Spells argument flag.long attached ∧
      Reading.ofArguments rest = .ok readings := by
  obtain ⟨rest, rfl, ⟨-, hreading⟩ | ⟨hargument, hrest⟩⟩ := ofArguments_eq_cons h
  · cases hreading
  · exact ⟨rest, rfl, ofArgument_eq_flag_iff.mp hargument, hrest⟩

theorem Typed.of_not_flag
    (h : ∀ flag attached, ofArgument argument ≠ .ok (.flag flag attached)) :
    Typed (argument :: rest) [] := by
  refine .expression fun long hlong attached hspells => ?_
  obtain ⟨flag, rfl⟩ := exists_flag_of_mem_longs hlong
  exact h flag attached (ofArgument_eq_flag_iff.mpr hspells)

-- A word or a separator begins the expression.
theorem Typed.of_reading {reading : Reading} {readings : List (String × Reading)}
    (hread : Reading.ofArguments arguments = .ok ((argument, reading) :: readings))
    (hreading : reading = .word ∨ reading = .separator) : Typed arguments [] := by
  obtain ⟨rest, rfl, ⟨rfl, -⟩ | ⟨hargument, -⟩⟩ := ofArguments_eq_cons hread
  · have hambiguous : ofArgument "--" = .error (.ambiguous "--" Flag.all) := by decide +kernel
    refine .of_not_flag fun flag attached h => ?_
    rw [hambiguous] at h
    cases h
  · refine .of_not_flag fun flag attached h => ?_
    cases hargument.symm.trans h
    rcases hreading with h | h <;> cases h

-- Whatever is left unrecognized keeps the arguments from being accepted.
theorem unrecognized_eq_nil {a b : Arguments} {unrecognized : List String}
    {readings : List (String × Reading)}
    (h : Arguments.collect a unrecognized readings = .ok b) : unrecognized = [] := by
  fun_induction Arguments.collect a unrecognized readings with
  | case1 | case3 | case5 => rfl
  | case7 a unrecognized argument rest ih => exact absurd (ih h) (by simp)
  | case10 a unrecognized argument value rest ih
  | case11 a unrecognized argument value rest ih =>
      obtain ⟨t, -, h⟩ := bind_eq_ok.mp h
      exact ih t h
  | case15 a unrecognized argument rest ih | case16 a unrecognized argument rest ih => exact ih h
  | _ => cases h

theorem typed_ofReadings {a b : Arguments} {unrecognized : List String}
    {readings : List (String × Reading)} (hread : Reading.ofArguments arguments = .ok readings)
    (h : Arguments.collect a unrecognized readings = .ok b) :
    Typed arguments (ofReadings readings) := by
  fun_induction Arguments.collect a unrecognized readings generalizing arguments with
  | case1 =>
      rw [Reading.ofArguments_eq_nil hread]
      exact .done
  | case3 => exact .of_reading hread (.inl rfl)
  | case5 => exact .of_reading hread (.inr rfl)
  | case7 a unrecognized argument rest ih => exact absurd (unrecognized_eq_nil h) (by simp)
  | case10 a unrecognized argument value rest ih =>
      obtain ⟨rest, rfl, hspells, hrest⟩ := exists_spells hread
      obtain ⟨t, -, h⟩ := bind_eq_ok.mp h
      exact .attachedLevel hspells (ih t hrest h)
  | case11 a unrecognized argument value rest ih =>
      obtain ⟨rest, rfl, hspells, hrest⟩ := exists_spells hread
      obtain ⟨rest, rfl, ⟨-, hreading⟩ | ⟨-, hrest⟩⟩ := ofArguments_eq_cons hrest
      · cases hreading
      · obtain ⟨t, -, h⟩ := bind_eq_ok.mp h
        exact .nextLevel hspells (ih t hrest h)
  | case15 a unrecognized argument rest ih =>
      obtain ⟨rest, rfl, hspells, hrest⟩ := exists_spells hread
      exact .mixed hspells (ih hrest h)
  | case16 a unrecognized argument rest ih =>
      obtain ⟨rest, rfl, hspells, hrest⟩ := exists_spells hread
      exact .noHistory hspells (ih hrest h)
  | _ => cases h

-- The parser finds the flags that are typed.
theorem typed_ofArguments {a : Arguments} (h : Arguments.parse arguments = .ok a) :
    Typed arguments (ofArguments arguments) := by
  rw [Arguments.parse] at h
  obtain ⟨readings, hreadings, h⟩ := bind_eq_ok.mp h
  rw [mapError_eq_ok_iff] at hreadings
  rw [ofArguments, hreadings]
  exact typed_ofReadings hreadings h

-- An argument spells one flag at most, and in one way.
theorem spells_unique {long other : String} {attached attached' : Option String}
    (hlong : long ∈ longs) (hother : other ∈ longs) (h : Spells argument long attached)
    (h' : Spells argument other attached') : long = other ∧ attached = attached' := by
  obtain ⟨flag, rfl⟩ := exists_flag_of_mem_longs hlong
  obtain ⟨flag', rfl⟩ := exists_flag_of_mem_longs hother
  have hsame := (ofArgument_eq_flag_iff.mpr h).symm.trans (ofArgument_eq_flag_iff.mpr h')
  simp only [Except.ok.injEq, Reading.flag.injEq] at hsame
  exact ⟨congrArg Flag.long hsame.1, hsame.2⟩

-- The arguments leave no choice which flags are typed.
theorem Typed.unique (h : Typed arguments flags) (h' : Typed arguments others) :
    flags = others := by
  induction h generalizing others with
  | done =>
      cases h'
      rfl
  | expression hnone =>
      cases h' with
      | expression => rfl
      | mixed h | noHistory h | attachedLevel h | nextLevel h =>
          exact absurd h (hnone _ (by decide) _)
  | mixed h hrest ih =>
      cases h' with
      | expression hnone => exact absurd h (hnone _ (by decide) _)
      | mixed _ hrest' => rw [ih hrest']
      | noHistory h' | attachedLevel h' | nextLevel h' =>
          exact absurd (spells_unique (by decide) (by decide) h h').1 (by decide)
  | noHistory h hrest ih =>
      cases h' with
      | expression hnone => exact absurd h (hnone _ (by decide) _)
      | noHistory _ hrest' => rw [ih hrest']
      | mixed h' | attachedLevel h' | nextLevel h' =>
          exact absurd (spells_unique (by decide) (by decide) h h').1 (by decide)
  | attachedLevel h hrest ih =>
      cases h' with
      | expression hnone => exact absurd h (hnone _ (by decide) _)
      | attachedLevel h' hrest' =>
          cases (spells_unique (by decide) (by decide) h h').2
          rw [ih hrest']
      | nextLevel h' => cases (spells_unique (by decide) (by decide) h h').2
      | mixed h' | noHistory h' =>
          exact absurd (spells_unique (by decide) (by decide) h h').1 (by decide)
  | nextLevel h hrest ih =>
      cases h' with
      | expression hnone => exact absurd h (hnone _ (by decide) _)
      | nextLevel _ hrest' => rw [ih hrest']
      | attachedLevel h' => cases (spells_unique (by decide) (by decide) h h').2
      | mixed h' | noHistory h' =>
          exact absurd (spells_unique (by decide) (by decide) h h').1 (by decide)

end TypedFlag

end FractionCalculator
