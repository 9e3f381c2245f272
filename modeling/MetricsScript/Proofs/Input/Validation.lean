import MetricsScript.Proofs.Input.Inputs
import MetricsScript.Proofs.Text.Utf8

/-!
# The first fault of the inputs

Options are accepted exactly if there is a script, it is not blank, and each boolean is spelled.
If they are refused, the error is that of the first fault: the script is looked at before the
booleans, and these one after the other.
-/

namespace MetricsScript
namespace Input

/-- The text of the script: that of the file if one is named, that of standard input if the script
is a hyphen, and else the script as it was given. -/
inductive ScriptIs (given : Given) (stdin : List UInt8) (files : Host.Files) : String → Prop
  | file {path text : String} :
      given.scriptFile = some path → files.read path = .ok (Text.Utf8.encode text) →
        ScriptIs given stdin files text
  | stdin {text : String} :
      given.scriptFile = none → given.script = some "-" → stdin = Text.Utf8.encode text →
        ScriptIs given stdin files text
  | argument {text : String} :
      given.scriptFile = none → given.script = some text → text ≠ "-" →
        ScriptIs given stdin files text
  | absent : given.scriptFile = none → given.script = none → ScriptIs given stdin files ""

/-- Why there is no text of the script. -/
inductive Unreadable (given : Given) (stdin : List UInt8) (files : Host.Files) :
    InputError → Prop
  | file {path : String} {cause : SystemError} :
      given.scriptFile = some path → files.read path = .error cause →
        Unreadable given stdin files (.unreadable path cause)
  | fileBytes {path : String} {bytes : List UInt8} :
      given.scriptFile = some path → files.read path = .ok bytes →
        (∀ text, bytes ≠ Text.Utf8.encode text) →
        Unreadable given stdin files (.unreadable path .notText)
  | stdinBytes :
      given.scriptFile = none → given.script = some "-" →
        (∀ text, stdin ≠ Text.Utf8.encode text) →
        Unreadable given stdin files (.unreadable "stdin" .notText)

/-- The boolean that an input spells when it is trimmed. -/
inductive SpellsBoolean : Option String → Bool → Prop
  | absent : SpellsBoolean none false
  | no {value : String} :
      Text.trim value ∈ ["", "false", "False", "FALSE"] → SpellsBoolean (some value) false
  | yes {value : String} :
      Text.trim value ∈ ["true", "True", "TRUE"] → SpellsBoolean (some value) true

/-- The boolean inputs with their names, in the order in which they are looked at. -/
def Given.booleans (given : Given) : List (String × Option String) :=
  [("pull", given.pull), ("push", given.push), ("sync", given.sync),
    ("continueOnError", given.continueOnError)]

/-- What the inputs are when nothing is wrong with them. -/
structure Accepted (given : Given) (stdin : List UInt8) (files : Host.Files) (result : Inputs) :
    Prop where
  script : ScriptIs given stdin files result.script
  not_blank : ∃ c ∈ result.script.toList, Text.isBlank c = false
  pull : SpellsBoolean given.pull result.flags.pull
  push : SpellsBoolean given.push result.flags.push
  sync : SpellsBoolean given.sync result.flags.sync
  continueOnError : SpellsBoolean given.continueOnError result.configuration.continueOnError
  program : result.configuration.program = given.program.getD "git-metrics"
  backend : result.configuration.backend = given.backend.getD "command"
  verbosity : result.configuration.verbosity = given.verbosity.getD 5
  echo : result.configuration.echo = given.echo.getD false
  format : result.format = given.outputFormat.getD .json

/-- The first thing that is wrong with the inputs. -/
inductive FirstFault (given : Given) (stdin : List UInt8) (files : Host.Files) :
    InputError → Prop
  | script {error : InputError} :
      Unreadable given stdin files error → FirstFault given stdin files error
  | blank {text : String} :
      ScriptIs given stdin files text → (∀ c ∈ text.toList, Text.isBlank c = true) →
        FirstFault given stdin files (.required "script")
  | boolean {text name value : String} {before after : List (String × Option String)} :
      ScriptIs given stdin files text → (∃ c ∈ text.toList, Text.isBlank c = false) →
        given.booleans = before ++ (name, some value) :: after →
        (∀ input ∈ before, ∃ b, SpellsBoolean input.2 b) → (∀ b, ¬SpellsBoolean (some value) b) →
        FirstFault given stdin files (.notBoolean name (Text.trim value))

variable
  {given : Given} {stdin : List UInt8} {files : Host.Files} {result : Inputs} {error : InputError}

/-! ## The script -/

theorem textFrom_ok_eq_ok_iff {path text : String} {bytes : List UInt8} :
    textFrom path (.ok bytes) = .ok text ↔ bytes = Text.Utf8.encode text := by
  rw [← Text.Utf8.decode?_eq_some_iff, textFrom]
  cases Text.Utf8.decode? bytes with
  | none => simp
  | some read => simp

theorem textFrom_ok_eq_error_iff {path : String} {bytes : List UInt8} :
    textFrom path (.ok bytes) = .error error ↔
      (∀ text, bytes ≠ Text.Utf8.encode text) ∧ error = .unreadable path .notText := by
  simp only [← Text.Utf8.decode?_eq_some_iff, ne_eq, textFrom]
  cases Text.Utf8.decode? bytes with
  | none => simp [eq_comm]
  | some read => simp

/-! The three places that the script can come from. -/

theorem scriptSource_of_file {path : String} (h : given.scriptFile = some path) :
    scriptSource given stdin files = textFrom path (files.read path) := by
  simp only [scriptSource, h]

theorem scriptSource_of_hyphen (hfile : given.scriptFile = none) (h : given.script = some "-") :
    scriptSource given stdin files = textFrom "stdin" (.ok stdin) := by
  simp only [scriptSource, hfile, h]

theorem scriptSource_of_argument
    (hfile : given.scriptFile = none) (h : given.script ≠ some "-") :
    scriptSource given stdin files = .ok (given.script.getD "") := by
  unfold scriptSource
  split
  · next hpath =>
      rw [hfile] at hpath
      cases hpath
  · next hhyphen => exact absurd hhyphen h
  · rfl

theorem exists_source (given : Given) :
    (∃ path, given.scriptFile = some path) ∨
      given.scriptFile = none ∧ (given.script = some "-" ∨ given.script ≠ some "-") := by
  cases given.scriptFile with
  | some path => exact Or.inl ⟨path, rfl⟩
  | none => exact Or.inr ⟨rfl, Decidable.em _⟩

theorem ScriptIs.scriptSource_eq {text : String} (h : ScriptIs given stdin files text) :
    scriptSource given stdin files = .ok text := by
  cases h with
  | file hfile hread =>
      rw [scriptSource_of_file hfile, hread]
      exact textFrom_ok_eq_ok_iff.mpr rfl
  | stdin hfile hscript hbytes =>
      rw [scriptSource_of_hyphen hfile hscript]
      exact textFrom_ok_eq_ok_iff.mpr hbytes
  | argument hfile hscript hhyphen =>
      rw [scriptSource_of_argument hfile (by simpa [hscript] using hhyphen), hscript]
      rfl
  | absent hfile hscript =>
      rw [scriptSource_of_argument hfile (by simp [hscript]), hscript]
      rfl

theorem Unreadable.scriptSource_eq (h : Unreadable given stdin files error) :
    scriptSource given stdin files = .error error := by
  cases h with
  | file hfile hread =>
      rw [scriptSource_of_file hfile, hread]
      rfl
  | fileBytes hfile hread hbytes =>
      rw [scriptSource_of_file hfile, hread]
      exact textFrom_ok_eq_error_iff.mpr ⟨hbytes, rfl⟩
  | stdinBytes hfile hscript hbytes =>
      rw [scriptSource_of_hyphen hfile hscript]
      exact textFrom_ok_eq_error_iff.mpr ⟨hbytes, rfl⟩

/-- The script has a text, or there is a reason why it has none. -/
theorem scriptIs_or_unreadable (given : Given) (stdin : List UInt8) (files : Host.Files) :
    (∃ text, ScriptIs given stdin files text) ∨ ∃ error, Unreadable given stdin files error := by
  rcases exists_source given with ⟨path, hfile⟩ | ⟨hfile, hscript | hscript⟩
  · cases hread : files.read path with
    | error cause => exact Or.inr ⟨_, .file hfile hread⟩
    | ok bytes =>
        by_cases hbytes : ∃ text, bytes = Text.Utf8.encode text
        · obtain ⟨text, rfl⟩ := hbytes
          exact Or.inl ⟨text, .file hfile hread⟩
        · exact Or.inr ⟨_, .fileBytes hfile hread (not_exists.mp hbytes)⟩
  · by_cases hbytes : ∃ text, stdin = Text.Utf8.encode text
    · obtain ⟨text, hbytes⟩ := hbytes
      exact Or.inl ⟨text, .stdin hfile hscript hbytes⟩
    · exact Or.inr ⟨_, .stdinBytes hfile hscript (not_exists.mp hbytes)⟩
  · cases hgiven : given.script with
    | none => exact Or.inl ⟨"", .absent hfile hgiven⟩
    | some text =>
        rw [hgiven, ne_eq, Option.some.injEq] at hscript
        exact Or.inl ⟨text, .argument hfile hgiven hscript⟩

theorem scriptSource_eq_ok_iff {text : String} :
    scriptSource given stdin files = .ok text ↔ ScriptIs given stdin files text := by
  constructor
  · intro h
    rcases scriptIs_or_unreadable given stdin files with ⟨read, hread⟩ | ⟨error, hunreadable⟩
    · rw [hread.scriptSource_eq] at h
      cases h
      exact hread
    · rw [hunreadable.scriptSource_eq] at h
      cases h
  · intro h
    exact h.scriptSource_eq

theorem scriptSource_eq_error_iff :
    scriptSource given stdin files = .error error ↔ Unreadable given stdin files error := by
  constructor
  · intro h
    rcases scriptIs_or_unreadable given stdin files with ⟨read, hread⟩ | ⟨other, hunreadable⟩
    · rw [hread.scriptSource_eq] at h
      cases h
    · rw [hunreadable.scriptSource_eq] at h
      cases h
      exact hunreadable
  · intro h
    exact h.scriptSource_eq

theorem isAllBlank_eq_false_iff {text : String} :
    Text.isAllBlank text = false ↔ ∃ c ∈ text.toList, Text.isBlank c = false := by
  simp [Text.isAllBlank]

theorem isAllBlank_eq_true_iff {text : String} :
    Text.isAllBlank text = true ↔ ∀ c ∈ text.toList, Text.isBlank c = true :=
  List.all_eq_true

theorem requiredScript_eq_error_iff :
    requiredScript given stdin files = .error error ↔
      Unreadable given stdin files error ∨
        (∃ text, ScriptIs given stdin files text ∧ ∀ c ∈ text.toList, Text.isBlank c = true) ∧
          error = .required "script" := by
  simp only [requiredScript, bind_eq_error_iff, scriptSource_eq_error_iff, scriptSource_eq_ok_iff,
    ← isAllBlank_eq_true_iff]
  apply or_congr_right
  constructor
  · rintro ⟨text, htext, h⟩
    split at h
    · next hblank => exact ⟨⟨text, htext, hblank⟩, (Except.error.inj h).symm⟩
    · cases h
  · rintro ⟨⟨text, htext, hblank⟩, rfl⟩
    exact ⟨text, htext, if_pos hblank⟩

/-! ## The booleans -/

/-- What is no spelling of false may be one of true, but no text is both. -/
theorem notMem_falseSpellings {text : String} (h : text ∈ trueSpellings) :
    text ∉ falseSpellings := by
  simp only [trueSpellings, List.mem_cons, List.not_mem_nil, or_false] at h
  rcases h with rfl | rfl | rfl
  all_goals decide

theorem boolean_some (name value : String) :
    boolean name (some value) =
      if Text.trim value ∈ falseSpellings then .ok false
      else if Text.trim value ∈ trueSpellings then .ok true
      else .error (.notBoolean name (Text.trim value)) :=
  rfl

theorem SpellsBoolean.boolean_eq
    {value : Option String} {b : Bool} (h : SpellsBoolean value b) (name : String) :
    boolean name value = .ok b := by
  cases h with
  | absent => rfl
  | no htext => exact if_pos htext
  | yes htext =>
      rw [boolean_some, if_neg (notMem_falseSpellings htext)]
      exact if_pos htext

/-- An input that spells no boolean is given, and is quoted without the blanks around it. -/
theorem boolean_of_not_spells
    {value : Option String} (h : ∀ b, ¬SpellsBoolean value b) (name : String) :
    ∃ text, value = some text ∧
      boolean name value = .error (.notBoolean name (Text.trim text)) := by
  cases value with
  | none => exact absurd .absent (h false)
  | some text =>
      have hno : Text.trim text ∉ falseSpellings := fun htext => h false (.no htext)
      have hyes : Text.trim text ∉ trueSpellings := fun htext => h true (.yes htext)
      exact ⟨text, rfl, by rw [boolean_some, if_neg hno, if_neg hyes]⟩

theorem boolean_eq_ok_iff {name : String} {value : Option String} {b : Bool} :
    boolean name value = .ok b ↔ SpellsBoolean value b := by
  constructor
  · intro h
    by_cases hspells : ∃ b, SpellsBoolean value b
    · obtain ⟨b', hb'⟩ := hspells
      rw [hb'.boolean_eq name] at h
      cases h
      exact hb'
    · obtain ⟨text, -, herror⟩ := boolean_of_not_spells (not_exists.mp hspells) name
      rw [herror] at h
      cases h
  · intro h
    exact h.boolean_eq name

theorem boolean_eq_error_iff {name : String} {value : Option String} :
    boolean name value = .error error ↔
      (∀ b, ¬SpellsBoolean value b) ∧
        ∃ text, value = some text ∧ error = .notBoolean name (Text.trim text) := by
  constructor
  · intro h
    have hspells : ∀ b, ¬SpellsBoolean value b := by
      intro b hb
      rw [hb.boolean_eq name] at h
      cases h
    obtain ⟨text, htext, herror⟩ := boolean_of_not_spells hspells name
    rw [herror] at h
    exact ⟨hspells, text, htext, (Except.error.inj h).symm⟩
  · rintro ⟨hspells, text, rfl, rfl⟩
    obtain ⟨text', htext', herror⟩ := boolean_of_not_spells hspells name
    obtain rfl := Option.some.inj htext'
    exact herror

/-- Checks inputs one after the other. -/
def checkBooleans : List (String × Option String) → Except InputError Unit
  | [] => .ok ()
  | input :: rest => do
      let _ ← boolean input.1 input.2
      checkBooleans rest

/-- The error is that of the first input that spells no boolean. -/
theorem checkBooleans_eq_error_iff {booleans : List (String × Option String)} :
    checkBooleans booleans = .error error ↔
      ∃ before name value after, booleans = before ++ (name, some value) :: after ∧
        (∀ input ∈ before, ∃ b, SpellsBoolean input.2 b) ∧ (∀ b, ¬SpellsBoolean (some value) b) ∧
        error = .notBoolean name (Text.trim value) := by
  induction booleans with
  | nil => simp [checkBooleans]
  | cons input booleans ih =>
      obtain ⟨name, value⟩ := input
      rw [checkBooleans, bind_eq_error_iff, ih, boolean_eq_error_iff]
      simp only [boolean_eq_ok_iff]
      constructor
      · rintro (⟨hspells, text, rfl, rfl⟩ | ⟨b, hb, before, name', text, after, rfl, hbefore, h⟩)
        · exact ⟨[], name, text, booleans, rfl, by simp, hspells, rfl⟩
        · refine ⟨(name, value) :: before, name', text, after, rfl, ?_, h⟩
          exact List.forall_mem_cons.mpr ⟨⟨b, hb⟩, hbefore⟩
      · rintro ⟨before, name', text, after, hsplit, hbefore, hspells, rfl⟩
        cases before with
        | nil =>
            obtain ⟨hinput, -⟩ := List.cons.inj hsplit
            obtain ⟨rfl, rfl⟩ := Prod.mk.inj hinput
            exact Or.inl ⟨hspells, text, rfl, rfl⟩
        | cons first before =>
            obtain ⟨rfl, hrest⟩ := List.cons.inj hsplit
            obtain ⟨⟨b, hb⟩, hbefore⟩ := List.forall_mem_cons.mp hbefore
            exact Or.inr ⟨b, hb, before, name', text, after, hrest, hbefore, hspells, rfl⟩

/-! ## All inputs -/

theorem inputs_eq_error_iff :
    inputs given stdin files = .error error ↔
      requiredScript given stdin files = .error error ∨
        (∃ script, requiredScript given stdin files = .ok script) ∧
          checkBooleans given.booleans = .error error := by
  simp only [inputs, checkBooleans, Given.booleans, bind_eq_error_iff, pure, Except.pure,
    reduceCtorEq, and_false, exists_false, or_false, exists_and_right]

theorem Accepted.inputs_eq (h : Accepted given stdin files result) :
    inputs given stdin files = .ok result := by
  have hscript : requiredScript given stdin files = .ok result.script :=
    requiredScript_eq_ok_iff.mpr
      ⟨h.script.scriptSource_eq, isAllBlank_eq_false_iff.mpr h.not_blank⟩
  obtain ⟨script, ⟨pull, push, sync⟩, configuration, format⟩ := result
  obtain ⟨program, backend, verbosity, continueOnError, echo⟩ := configuration
  obtain ⟨-, -, hpull, hpush, hsync, hcontinue, rfl, rfl, rfl, rfl, rfl⟩ := h
  simp only [inputs, hscript, hpull.boolean_eq, hpush.boolean_eq, hsync.boolean_eq,
    hcontinue.boolean_eq]
  rfl

theorem accepted_iff :
    inputs given stdin files = .ok result ↔ Accepted given stdin files result := by
  constructor
  · intro h
    obtain ⟨script, hscript, h⟩ := exists_of_bind_eq_ok h
    obtain ⟨pull, hpull, h⟩ := exists_of_bind_eq_ok h
    obtain ⟨push, hpush, h⟩ := exists_of_bind_eq_ok h
    obtain ⟨sync, hsync, h⟩ := exists_of_bind_eq_ok h
    obtain ⟨continueOnError, hcontinue, h⟩ := exists_of_bind_eq_ok h
    cases h
    obtain ⟨hsource, hblank⟩ := requiredScript_eq_ok_iff.mp hscript
    exact
      { script := scriptSource_eq_ok_iff.mp hsource
        not_blank := isAllBlank_eq_false_iff.mp hblank
        pull := boolean_eq_ok_iff.mp hpull
        push := boolean_eq_ok_iff.mp hpush
        sync := boolean_eq_ok_iff.mp hsync
        continueOnError := boolean_eq_ok_iff.mp hcontinue
        program := rfl
        backend := rfl
        verbosity := rfl
        echo := rfl
        format := rfl }
  · intro h
    exact h.inputs_eq

theorem firstFault_iff :
    inputs given stdin files = .error error ↔ FirstFault given stdin files error := by
  simp only [inputs_eq_error_iff, requiredScript_eq_error_iff, checkBooleans_eq_error_iff,
    requiredScript_eq_ok_iff, scriptSource_eq_ok_iff, isAllBlank_eq_false_iff]
  constructor
  · rintro ((hunreadable | ⟨⟨text, htext, hblank⟩, rfl⟩) |
      ⟨⟨text, htext, hblank⟩, before, name, value, after, hsplit, hbefore, hspells, rfl⟩)
    · exact .script hunreadable
    · exact .blank htext hblank
    · exact .boolean htext hblank hsplit hbefore hspells
  · intro h
    cases h with
    | script hunreadable => exact Or.inl (Or.inl hunreadable)
    | blank htext hblank => exact Or.inl (Or.inr ⟨⟨_, htext, hblank⟩, rfl⟩)
    | boolean htext hblank hsplit hbefore hspells =>
        exact Or.inr ⟨⟨_, htext, hblank⟩, _, _, _, _, hsplit, hbefore, hspells, rfl⟩

/-- Standard input is read for the script only if that is a hyphen and no file is named. -/
theorem inputs_stdin
    (h : ¬(given.scriptFile = none ∧ given.script = some "-")) (stdin' : List UInt8) :
    inputs given stdin' files = inputs given stdin files := by
  have hsource : scriptSource given stdin' files = scriptSource given stdin files := by
    rcases exists_source given with ⟨path, hfile⟩ | ⟨hfile, hscript | hscript⟩
    · rw [scriptSource_of_file hfile, scriptSource_of_file hfile]
    · exact absurd ⟨hfile, hscript⟩ h
    · rw [scriptSource_of_argument hfile hscript, scriptSource_of_argument hfile hscript]
  rw [inputs, inputs, requiredScript, requiredScript, hsource]

/-- Options can be accepted if the script and all booleans can be. -/
theorem exists_accepted_iff :
    (∃ result, Accepted given stdin files result) ↔
      (∃ text, ScriptIs given stdin files text ∧ ∃ c ∈ text.toList, Text.isBlank c = false) ∧
        ∀ input ∈ given.booleans, ∃ b, SpellsBoolean input.2 b := by
  constructor
  · rintro ⟨result, h⟩
    refine ⟨⟨result.script, h.script, h.not_blank⟩, ?_⟩
    simp only [Given.booleans, List.forall_mem_cons]
    exact ⟨⟨_, h.pull⟩, ⟨_, h.push⟩, ⟨_, h.sync⟩, ⟨_, h.continueOnError⟩, by simp⟩
  · rintro ⟨⟨text, htext, hblank⟩, hbooleans⟩
    simp only [Given.booleans, List.forall_mem_cons] at hbooleans
    obtain ⟨⟨pull, hpull⟩, ⟨push, hpush⟩, ⟨sync, hsync⟩, ⟨continueOnError, hcontinue⟩, -⟩ :=
      hbooleans
    let result : Inputs :=
      { script := text
        flags := { pull, push, sync }
        configuration :=
          { program := given.program.getD "git-metrics"
            backend := given.backend.getD "command"
            verbosity := given.verbosity.getD 5
            continueOnError
            echo := given.echo.getD false }
        format := given.outputFormat.getD .json }
    exact ⟨result, htext, hblank, hpull, hpush, hsync, hcontinue, rfl, rfl, rfl, rfl, rfl⟩

/-- Options are accepted exactly if the script has a text that is not blank and each of the four
booleans is spelled, and then every input is the one that was given or its default.  Otherwise
the error is that of the first fault.  Standard input counts only where the script is a hyphen
and no file is named. -/
theorem inputs_accepted_or_first_fault
    (given : Given) (stdin : List UInt8) (files : Host.Files) :
    ((∃ result, inputs given stdin files = .ok result) ↔
      (∃ text, ScriptIs given stdin files text ∧ ∃ c ∈ text.toList, Text.isBlank c = false) ∧
        ∀ input ∈ given.booleans, ∃ b, SpellsBoolean input.2 b) ∧
    (∀ result, inputs given stdin files = .ok result ↔ Accepted given stdin files result) ∧
    (∀ error, inputs given stdin files = .error error ↔ FirstFault given stdin files error) ∧
    (¬(given.scriptFile = none ∧ given.script = some "-") →
      ∀ stdin', inputs given stdin' files = inputs given stdin files) := by
  refine ⟨?_, fun _ => accepted_iff, fun _ => firstFault_iff, inputs_stdin⟩
  simp only [accepted_iff]
  exact exists_accepted_iff

/-- Of two wrong booleans the first one is reported, and no one looks at standard input. -/
theorem inputs_of_two_wrong_booleans :
    let given : Given :=
      { script := some "\tshow\n", pull := some "TRUE", push := some " yes\n", sync := some "1" }
    let files : Host.Files := { nodes := [], working := [] }
    inputs given [] files = .error (.notBoolean "push" "yes") ∧
      ¬(given.scriptFile = none ∧ given.script = some "-") ∧
      inputs given [0xFF] files = inputs given [] files := by
  intro given files
  have hscript : ScriptIs given [] files "\tshow\n" := .argument rfl rfl (by decide)
  have hsplit : given.booleans = [("pull", some "TRUE")] ++ ("push", some " yes\n") ::
      [("sync", some "1"), ("continueOnError", none)] := rfl
  have hbefore : ∀ input ∈ [("pull", some "TRUE")], ∃ b, SpellsBoolean input.2 b := by
    intro input hinput
    obtain rfl := List.mem_singleton.mp hinput
    exact ⟨true, .yes (by decide +kernel)⟩
  have hpush : ∀ b, ¬SpellsBoolean (some " yes\n") b := by
    intro b h
    cases h with
    | no h => exact absurd h (by decide +kernel)
    | yes h => exact absurd h (by decide +kernel)
  have htrim : Text.trim " yes\n" = "yes" := by decide +kernel
  have hfault : FirstFault given [] files (.notBoolean "push" (Text.trim " yes\n")) :=
    .boolean hscript ⟨'s', by decide +kernel⟩ hsplit hbefore hpush
  rw [htrim] at hfault
  have hargument : ¬(given.scriptFile = none ∧ given.script = some "-") := by decide
  have h := inputs_accepted_or_first_fault given [] files
  exact ⟨(h.2.2.1 _).mpr hfault, hargument, h.2.2.2 hargument [0xFF]⟩

end Input
end MetricsScript
