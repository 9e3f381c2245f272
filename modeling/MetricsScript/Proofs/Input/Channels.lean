import Mathlib.Logic.Function.Basic
import MetricsScript.Input.Inputs
import MetricsScript.Proofs.Input.Inputs

/-!
# Arguments and variables

An option with a variable can be given in two ways: as an argument, or by its variable when the
arguments leave it out.  What comes of the options depends on their values alone, and neither on
the way in which each of them was given nor on the order of the arguments.  The variable of an
option among the arguments is not looked at.
-/

namespace MetricsScript
namespace Input

/-- The option takes a value, as an argument or from its variable. -/
def Setting.TwoWay (setting : Setting) : Prop :=
  setting.arity ≠ .switch ∧ setting.variableName.isSome = true

instance (setting : Setting) : Decidable setting.TwoWay :=
  inferInstanceAs (Decidable (setting.arity ≠ .switch ∧ setting.variableName.isSome = true))

example : Setting.all.filter (fun setting => setting.TwoWay) =
    [.script, .backend, .sync, .pull, .push, .continueOnError, .program, .verbosity] := by
  decide

/-- The argument that gives an option its value behind an equals sign. -/
def Setting.argument (setting : Setting) (value : String) : String :=
  "--" ++ setting.name ++ "=" ++ value

/-- One way of giving options: some of them as arguments, in this order, and the others by the
environment. -/
structure Supply where
  flags : List (Setting × String)
  environment : Environment

/-- The options that are given as arguments. -/
def Supply.flagged (supply : Supply) : List Setting :=
  supply.flags.map Prod.fst

def Supply.arguments (supply : Supply) : List String :=
  supply.flags.map fun flag => flag.1.argument flag.2

/-- What the program makes of the options: why they are refused, or else the inputs that they
come to. -/
def Supply.read (supply : Supply) (stdin : List UInt8) (files : Host.Files) :
    Except Refusal (Except InputError Inputs) :=
  (readOptions supply.arguments supply.environment).map fun given => inputs given stdin files

/-- The value of the variable of an option. -/
def Environment.holds (environment : Environment) (setting : Setting) : Option String :=
  setting.variableName.bind (valueOf? environment)

/-- Each option has the value that `values` says, if any: as its only argument, and else by its
variable.  Nothing is said of the variables of options that are arguments. -/
structure Supply.Gives (supply : Supply) (values : Setting → Option String) : Prop where
  once : supply.flagged.Nodup
  flagged : ∀ flag ∈ supply.flags, flag.1.TwoWay ∧ values flag.1 = some flag.2
  unflagged : ∀ setting, setting.variableName.isSome = true → setting ∉ supply.flagged →
    supply.environment.holds setting = values setting

/-- The options that have values, by themselves.  Only the value of the verbosity can be refused. -/
def optionsOf (values : Setting → Option String) : Except Refusal Given := do
  let verbosity ← (values .verbosity).mapM verbosityOf
  return {
    script := values .script
    backend := values .backend
    sync := values .sync
    pull := values .pull
    push := values .push
    continueOnError := values .continueOnError
    program := values .program
    verbosity
    echo := (values .echo).map meansYes }

/-- The values of some of the options. -/
def valuesOf (values : Setting → Option String) (taken : List Setting) :
    Setting → Option String :=
  fun setting => if setting ∈ taken then values setting else none

variable {values : Setting → Option String} {setting : Setting} {value : String} {given : Given}
  {taken : List Setting}

/-! ## Values one by one -/

/-- Options without a variable have no say. -/
theorem optionsOf_congr
    {others : Setting → Option String}
    (h : ∀ setting, setting.variableName.isSome = true → values setting = others setting) :
    optionsOf values = optionsOf others := by
  rw [optionsOf, optionsOf, h .script rfl, h .backend rfl, h .sync rfl, h .pull rfl, h .push rfl,
    h .continueOnError rfl, h .program rfl, h .verbosity rfl, h .echo rfl]

/-- The options that have values are those that were given. -/
theorem has_of_optionsOf
    (h : optionsOf values = .ok given) (hvariable : setting.variableName.isSome = true) :
    given.has setting = (values setting).isSome := by
  obtain ⟨verbosity, hverbosity, hgiven⟩ := exists_of_bind_eq_ok h
  cases hgiven
  cases setting with
  | verbosity =>
      cases hvalue : values .verbosity with
      | none =>
          rw [hvalue] at hverbosity
          cases hverbosity
          rfl
      | some value =>
          rw [hvalue] at hverbosity
          obtain ⟨n, -, hsome⟩ := exists_of_bind_eq_ok hverbosity
          cases hsome
          rfl
  | echo => exact Option.isSome_map
  | scriptFile => cases hvariable
  | outputFormat => cases hvariable
  | _ => rfl

theorem scriptFile_of_optionsOf (h : optionsOf values = .ok given) :
    given.has .scriptFile = false := by
  obtain ⟨verbosity, -, hgiven⟩ := exists_of_bind_eq_ok h
  cases hgiven
  rfl

/-- One more value is assigned on top of the others. -/
theorem optionsOf_update
    (hvariable : setting.variableName.isSome = true) (hnone : values setting = none)
    (value : String) :
    (optionsOf values >>= fun given => given.assign setting value) =
      optionsOf (Function.update values setting (some value)) := by
  cases setting with
  | verbosity =>
      simp only [optionsOf, hnone, ne_eq, reduceCtorEq, not_false_eq_true, Function.update_of_ne,
        Function.update_self, Option.mapM_none, Option.mapM_some]
      change Given.assign _ .verbosity value = _
      rw [Given.assign]
      cases verbosityOf value with
      | error refusal => rfl
      | ok n => rfl
  | scriptFile => cases hvariable
  | outputFormat => cases hvariable
  | _ =>
      simp only [optionsOf, ne_eq, reduceCtorEq, not_false_eq_true, Function.update_of_ne,
        Function.update_self]
      cases (values .verbosity).mapM verbosityOf with
      | error refusal => rfl
      | ok verbosity => rfl

theorem valuesOf_of_mem (h : setting ∈ taken) : valuesOf values taken setting = values setting :=
  if_pos h

theorem valuesOf_of_notMem (h : setting ∉ taken) : valuesOf values taken setting = none :=
  if_neg h

theorem update_valuesOf (h : values setting = some value) :
    Function.update (valuesOf values taken) setting (some value) =
      valuesOf values (taken ++ [setting]) := by
  funext other
  by_cases hother : other = setting
  · subst hother
    rw [Function.update_self, valuesOf_of_mem (by simp), h]
  · simp [valuesOf, hother]

theorem valuesOf_append_of_eq (h : valuesOf values taken setting = values setting) :
    valuesOf values (taken ++ [setting]) = valuesOf values taken := by
  funext other
  by_cases hother : other = setting
  · subst hother
    rw [h, valuesOf_of_mem (by simp)]
  · simp [valuesOf, hother]

/-- Steps behind the options that agree whatever the options are. -/
theorem bind_congr_of_ok
    {ε α β : Type} {first : Except ε α} {next other : α → Except ε β}
    (h : ∀ value, first = .ok value → next value = other value) :
    (first >>= next) = (first >>= other) := by
  cases first with
  | error error => rfl
  | ok value => exact h value rfl

/-! ## Arguments -/

theorem named?_name (setting : Setting) : named? setting.name = some (.setting setting) := by
  cases setting <;> decide

theorem shapeOf_argument (setting : Setting) (value : String) :
    shapeOf (setting.argument value) = .long setting.name (some value) := by
  cases setting <;> simp [shapeOf, Setting.argument, Setting.name]

/-- An argument with its value behind an equals sign is settled at once. -/
theorem readArguments_argument
    (h : setting.TwoWay) (given : Given) (value : String) (rest : List String) :
    readArguments given none (setting.argument value :: rest) =
      given.assignOnce setting value >>= fun given => readArguments given none rest := by
  have hlong : readLong given none setting.name (some value) =
      given.assignOnce setting value >>= fun given => pure (given, none) := by
    simp only [readLong, named?_name, if_neg h.1, settle]
    rfl
  rw [readArguments]
  simp only [takesAnything, shapeOf_argument, hlong]
  cases given.assignOnce setting value with
  | error refusal => rfl
  | ok given => rfl

theorem readArguments_flags
    (flags : List (Setting × String))
    (hflags : ∀ flag ∈ flags, flag.1.TwoWay ∧ values flag.1 = some flag.2)
    (hnodup : (taken ++ flags.map Prod.fst).Nodup) :
    (optionsOf (valuesOf values taken) >>= fun given =>
        readArguments given none (flags.map fun flag => flag.1.argument flag.2)) =
      optionsOf (valuesOf values (taken ++ flags.map Prod.fst)) := by
  induction flags generalizing taken with
  | nil =>
      rw [List.map_nil, List.map_nil, List.append_nil]
      cases optionsOf (valuesOf values taken) with
      | error refusal => rfl
      | ok given => rfl
  | cons flag flags ih =>
      obtain ⟨setting, value⟩ := flag
      obtain ⟨htwoWay, hvalue⟩ := hflags _ List.mem_cons_self
      have hfresh : setting ∉ taken := by
        intro hmem
        exact (List.nodup_append.mp hnodup).2.2 _ hmem _ List.mem_cons_self rfl
      have hnone : valuesOf values taken setting = none := valuesOf_of_notMem hfresh
      have hassign : ∀ given, optionsOf (valuesOf values taken) = .ok given →
          readArguments given none
              (((setting, value) :: flags).map fun flag => flag.1.argument flag.2) =
            given.assign setting value >>= fun given =>
              readArguments given none (flags.map fun flag => flag.1.argument flag.2) := by
        intro given hgiven
        have hhas := has_of_optionsOf hgiven htwoWay.2
        rw [hnone] at hhas
        rw [List.map_cons, readArguments_argument htwoWay, Given.assignOnce, hhas]
        rfl
      have hkeys : taken ++ ((setting, value) :: flags).map Prod.fst =
          taken ++ [setting] ++ flags.map Prod.fst := List.append_cons _ _ _
      rw [hkeys] at hnodup ⊢
      rw [bind_congr_of_ok hassign, ← bind_assoc, optionsOf_update htwoWay.2 hnone,
        update_valuesOf hvalue]
      exact ih (fun flag hflag => hflags flag (List.mem_cons_of_mem _ hflag)) hnodup

/-! ## Variables -/

section
variable {environment : Environment} {settings : List Setting}

/-- A variable that is not set has no say, nor has one whose option has been given. -/
theorem readEnvironment_skip
    (h : environment.holds setting = none ∨ given.has setting = true) :
    readEnvironment environment given (setting :: settings) =
      readEnvironment environment given settings := by
  rw [readEnvironment]
  rw [Environment.holds] at h
  cases hvalue : setting.variableName.bind (valueOf? environment) with
  | none => rfl
  | some value =>
      rw [hvalue] at h
      exact if_pos (h.resolve_left (Option.some_ne_none value))

theorem readEnvironment_assign
    (hvalue : environment.holds setting = some value) (hhas : given.has setting = false) :
    readEnvironment environment given (setting :: settings) =
      given.assign setting value >>= fun given => readEnvironment environment given settings := by
  rw [Environment.holds] at hvalue
  rw [readEnvironment, hvalue]
  simp only [hhas, Bool.false_eq_true, if_false]
  cases given.assign setting value with
  | error refusal => rfl
  | ok given => rfl

/-- The variable of one option completes the options before it. -/
theorem readEnvironment_cons
    (htaken : setting ∈ taken → (values setting).isSome = true)
    (hvariable : setting.variableName.isSome = true → setting ∉ taken →
      environment.holds setting = values setting) :
    (optionsOf (valuesOf values taken) >>= fun given =>
        readEnvironment environment given (setting :: settings)) =
      optionsOf (valuesOf values (taken ++ [setting])) >>= fun given =>
        readEnvironment environment given settings := by
  cases hvalue : environment.holds setting with
  | none =>
      have hsame : optionsOf (valuesOf values (taken ++ [setting])) =
          optionsOf (valuesOf values taken) := by
        refine optionsOf_congr fun other hother => ?_
        by_cases hin : setting ∈ taken
        · rw [valuesOf_append_of_eq (valuesOf_of_mem hin)]
        by_cases heq : other = setting
        · subst heq
          have hnone := (hvariable hother hin).symm.trans hvalue
          rw [valuesOf_append_of_eq ((valuesOf_of_notMem hin).trans hnone.symm)]
        · simp [valuesOf, heq]
      rw [hsame]
      exact bind_congr_of_ok fun given _ => readEnvironment_skip (Or.inl hvalue)
  | some value =>
      obtain ⟨name, hname, -⟩ := Option.bind_eq_some_iff.mp hvalue
      have hsome : setting.variableName.isSome = true := Option.isSome_of_mem hname
      by_cases hin : setting ∈ taken
      · rw [valuesOf_append_of_eq (valuesOf_of_mem hin)]
        refine bind_congr_of_ok fun given hgiven => readEnvironment_skip (Or.inr ?_)
        rw [has_of_optionsOf hgiven hsome, valuesOf_of_mem hin]
        exact htaken hin
      · have hheld := (hvariable hsome hin).symm.trans hvalue
        rw [← update_valuesOf hheld, ← optionsOf_update hsome (valuesOf_of_notMem hin),
          bind_assoc]
        refine bind_congr_of_ok fun given hgiven => readEnvironment_assign hvalue ?_
        rw [has_of_optionsOf hgiven hsome, valuesOf_of_notMem hin]
        rfl

/-- The variables complete the options that the arguments have left out. -/
theorem readEnvironment_settings
    (hnodup : settings.Nodup)
    (htaken : ∀ setting ∈ settings, setting ∈ taken → (values setting).isSome = true)
    (hvariable : ∀ setting ∈ settings, setting.variableName.isSome = true → setting ∉ taken →
      environment.holds setting = values setting) :
    (optionsOf (valuesOf values taken) >>= fun given =>
        readEnvironment environment given settings) =
      optionsOf (valuesOf values (taken ++ settings)) := by
  induction settings generalizing taken with
  | nil =>
      rw [List.append_nil]
      cases optionsOf (valuesOf values taken) with
      | error refusal => rfl
      | ok given => rfl
  | cons setting settings ih =>
      obtain ⟨hfresh, hnodup⟩ := List.nodup_cons.mp hnodup
      rw [readEnvironment_cons (htaken setting List.mem_cons_self)
        (hvariable setting List.mem_cons_self), List.append_cons taken setting settings]
      refine ih hnodup (fun other hother hin => ?_) (fun other hother hsome hnot => ?_)
      · refine htaken other (List.mem_cons_of_mem _ hother) ?_
        rcases List.mem_append.mp hin with hin | hin
        · exact hin
        · rw [List.mem_singleton.mp hin] at hother
          exact absurd hother hfresh
      · exact hvariable other (List.mem_cons_of_mem _ hother) hsome
          fun hin => hnot (List.mem_append_left _ hin)

end

/-! ## All options -/

theorem Setting.mem_all (setting : Setting) : setting ∈ Setting.all := by
  cases setting <;> decide

/-- The options are those that have values, however they are supplied. -/
theorem Supply.Gives.readOptions_eq {supply : Supply} (h : supply.Gives values) :
    readOptions supply.arguments supply.environment = optionsOf values := by
  have hempty : optionsOf (valuesOf values []) = .ok {} := rfl
  have hflags : readArguments {} none supply.arguments =
      optionsOf (valuesOf values supply.flagged) := by
    have hread : (optionsOf (valuesOf values []) >>= _) = _ :=
      readArguments_flags supply.flags h.flagged h.once
    rw [hempty] at hread
    exact hread
  have hvariables : (optionsOf (valuesOf values supply.flagged) >>= fun given =>
      readEnvironment supply.environment given Setting.all) = optionsOf values := by
    rw [readEnvironment_settings (by decide) _ _]
    · refine optionsOf_congr fun setting _ => valuesOf_of_mem ?_
      exact List.mem_append_right _ setting.mem_all
    · intro setting _ hin
      obtain ⟨flag, hflag, rfl⟩ := List.mem_map.mp hin
      rw [(h.flagged flag hflag).2]
      rfl
    · exact fun setting _ => h.unflagged setting
  rw [readOptions, hflags, ← bind_assoc, hvariables]
  cases hgiven : optionsOf values with
  | error refusal => rfl
  | ok given =>
      change (if given.has .script && given.has .scriptFile then _ else _) = _
      rw [scriptFile_of_optionsOf hgiven, Bool.and_false]
      rfl

/-- Arguments and variables are interchangeable, and arguments win.  Two ways of supplying the
same values come to the same inputs, the same fault of the inputs, or the same refusal.  So does
each of them whatever the variables of the options among its arguments hold. -/
theorem supply_interchangeable
    {supply other : Supply} (h : supply.Gives values) (hother : other.Gives values)
    (stdin : List UInt8) (files : Host.Files) :
    supply.read stdin files = other.read stdin files ∧
      ∀ environment : Environment,
        (∀ setting, setting ∉ supply.flagged →
          environment.holds setting = supply.environment.holds setting) →
        { supply with environment }.read stdin files = supply.read stdin files := by
  have hread : ∀ {supply : Supply}, supply.Gives values → supply.read stdin files =
      (optionsOf values).map fun given => inputs given stdin files := by
    intro supply h
    rw [Supply.read, h.readOptions_eq]
  constructor
  · rw [hread h, hread hother]
  · intro environment hvariables
    have hchanged : Supply.Gives { supply with environment } values :=
      { once := h.once
        flagged := h.flagged
        unflagged := fun setting hsome hnot =>
          (hvariables setting hnot).trans (h.unflagged setting hsome hnot) }
    rw [hread hchanged, hread h]

/-- A script that looks like an option, a backend with an equals sign and a boolean with blanks
around it, each as an argument here and by its variable there; what the environment says of the
script besides its argument is lost. -/
theorem supply_interchangeable_mixed :
    let supply : Supply :=
      ⟨[(.verbosity, "+7"), (.script, "--sync")],
        [("INPUT_BACKEND", "a=b"), ("INPUT_SCRIPT", "push"), ("INPUT_SYNC", " true\n")]⟩
    let other : Supply :=
      ⟨[(.sync, " true\n"), (.backend, "a=b")],
        [("GMS_VERBOSITY", "+7"), ("INPUT_SCRIPT", "--sync")]⟩
    let files : Host.Files := { nodes := [], working := [] }
    supply.arguments = ["--verbosity=+7", "--script=--sync"] ∧
      supply.read [] files = .ok (.ok
        { script := "--sync"
          flags := { sync := true }
          configuration := { backend := "a=b", verbosity := 7 }
          format := .json }) ∧
      supply.read [] files = other.read [] files ∧
      { supply with environment := [("INPUT_BACKEND", "a=b"), ("INPUT_SYNC", " true\n")] }.read
        [] files = supply.read [] files := by
  intro supply other files
  let values : Setting → Option String := fun setting =>
    match setting with
    | .script => some "--sync"
    | .backend => some "a=b"
    | .sync => some " true\n"
    | .verbosity => some "+7"
    | _ => none
  have hsupply : supply.Gives values :=
    { once := by decide
      flagged := by decide
      unflagged := fun setting => by cases setting <;> decide }
  have hother : other.Gives values :=
    { once := by decide
      flagged := by decide
      unflagged := fun setting => by cases setting <;> decide }
  obtain ⟨hsame, hvariables⟩ := supply_interchangeable hsupply hother [] files
  exact ⟨rfl, rfl, hsame, hvariables _ fun setting => by cases setting <;> decide⟩

end Input
end MetricsScript
