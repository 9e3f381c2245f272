import MetricsScript.Program
import MetricsScript.Proofs.Publish.OutputFile

/-!
# What the program leaves behind

A program whose options were accepted ends in one of two ways.  Either the script ran to its
end and its records are published, on standard output and in the output file, or one message is
reported: that of the inputs, in which case the tool is not called at all, or that of the
command at which the run halted.  The exit code tells the two apart.

All this takes an output file that can be appended to.  What becomes of any other is told in
`Publication`.
-/

namespace MetricsScript
namespace Program

/-- The report of the run that the inputs ask for. -/
def reportOf (runner : Tool.Runner) (inputs : Input.Inputs) : Run.Report :=
  Run.run inputs.configuration runner [] inputs.script inputs.flags

/-- The text that is to be added to the output file. -/
def resultEntry (start : Start) (records : List Run.Record) : String :=
  Publish.entryText "result" (Publish.json records) start.delimiter

/-- The records are on standard output in the form that was asked for, and the output file, if
there is one, has grown by one entry that holds them as JSON. -/
structure Published
    (start : Start) (format : Input.Format) (records : List Run.Record) (outcome : Outcome) :
    Prop where
  code : outcome.code = 0
  json : format = .json → outcome.stdout = Publish.json records ++ "\n"
  text : format = .text → outcome.stdout = Publish.summary records
  unasked : outputPath? start.environment = none → outcome.files = start.files
  entered : ∀ path, outputPath? start.environment = some path →
    start.files.Grown outcome.files path (Text.Utf8.encode (resultEntry start records))

/-- One message is all that is left. -/
structure Reported (start : Start) (message : String) (outcome : Outcome) : Prop where
  code : outcome.code = 1
  stdout : outcome.stdout = Publish.errorAnnotation message ++ "\n"
  files : outcome.files = start.files

variable
  {start : Start} {runner : Tool.Runner} {given : Input.Given} {inputs : Input.Inputs}
  {format : Input.Format} {records : List Run.Record} {calls : List Tool.Invocation}
  {outcome : Outcome} {message : String}

/-! ## The ways to end -/

@[simp]
theorem failed_code {printed : String} {files : Host.Files} :
    (failed message printed calls files).code = 1 := rfl

@[simp]
theorem failed_stdout {printed : String} {files : Host.Files} :
    (failed message printed calls files).stdout =
      printed ++ (Publish.errorAnnotation message ++ "\n") := by
  rw [failed, ← String.append_assoc]
  rfl

theorem reported_failed : Reported start message (failed message "" calls start.files) where
  code := failed_code
  stdout := by rw [failed_stdout, String.empty_append]
  files := rfl

theorem run_of_inputs_error
    {error : Input.InputError}
    (hgiven : Input.readOptions start.arguments start.environment = .ok given)
    (herror : Input.inputs given start.stdin start.files = .error error) :
    run start runner = some (failed error.message "" [] start.files) := by
  simp [run, hgiven, herror]

theorem run_of_halted
    {failure : Run.Failure}
    (hgiven : Input.readOptions start.arguments start.environment = .ok given)
    (hinputs : Input.inputs given start.stdin start.files = .ok inputs)
    (hending : (reportOf runner inputs).ending = .halted failure) :
    run start runner =
      some (failed failure.message "" (reportOf runner inputs).calls start.files) := by
  rw [reportOf] at hending ⊢
  simp [run, hgiven, hinputs, runInputs, Run.Report.result?, hending]

theorem run_of_completed
    (hgiven : Input.readOptions start.arguments start.environment = .ok given)
    (hinputs : Input.inputs given start.stdin start.files = .ok inputs)
    (hending : (reportOf runner inputs).ending = .completed) :
    run start runner =
      some (publish start inputs.format (reportOf runner inputs).records
        (reportOf runner inputs).calls) := by
  rw [reportOf] at hending ⊢
  simp [run, hgiven, hinputs, runInputs, Run.Report.result?, hending]

/-! ## Publishing -/

/-- The delimiter stands within the entry. -/
def Clashes (start : Start) (records : List Run.Record) : Prop :=
  start.delimiter.toList <:+: resultName.toList ∨
    start.delimiter.toList <:+: (Publish.json records).toList

/-- The output file, if there is one, takes the entry as a whole. -/
def TakesEntry (start : Start) (records : List Run.Record) : Prop :=
  ∀ path, outputPath? start.environment = some path →
    ¬Clashes start records ∧
      (∃ location old, start.files.Writable path location old) ∧
      start.files.Fits (Text.Utf8.encode (resultEntry start records))

theorem addResult_of_unasked (h : outputPath? start.environment = none) :
    addResult start records = { files := start.files } := by
  rw [addResult, h]

theorem addResult_of_clashes {path : String}
    (hpath : outputPath? start.environment = some path) (h : Clashes start records) :
    addResult start records =
      { files := start.files, error? := some (.delimiterInside start.delimiter) } := by
  rw [addResult, hpath]
  exact Publish.addOutput_of_infix h

theorem addResult_of_not_clashes {path : String} {appended : Host.Appended}
    (hpath : outputPath? start.environment = some path) (h : ¬Clashes start records)
    (hextend : start.files.extend path (Text.Utf8.encode (resultEntry start records)) =
      appended) :
    addResult start records =
      { files := appended.files
        printed := if appended.shown then resultEntry start records else ""
        error? := appended.cause?.map .file } := by
  rw [addResult, hpath]
  exact Publish.addOutput_of_not_infix h hextend

theorem publish_of_added {added : Publish.Addition}
    (hadded : addResult start records = added) (herror : added.error? = none) :
    publish start format records calls =
      ⟨0, printed format records ++ added.printed, calls, added.files⟩ := by
  simp only [publish, hadded, herror]

theorem publish_of_not_added {added : Publish.Addition} {error : Publish.OutputError}
    (hadded : addResult start records = added) (herror : added.error? = some error) :
    publish start format records calls =
      failed error.message (printed format records ++ added.printed) calls added.files := by
  simp only [publish, hadded, herror]

@[simp]
theorem publish_calls : (publish start format records calls).calls = calls := by
  cases herror : (addResult start records).error? with
  | none => rw [publish_of_added rfl herror]
  | some error => rw [publish_of_not_added rfl herror]; rfl

theorem published_of_printed {files : Host.Files}
    (hunasked : outputPath? start.environment = none → files = start.files)
    (hentered : ∀ path, outputPath? start.environment = some path →
      start.files.Grown files path (Text.Utf8.encode (resultEntry start records))) :
    Published start format records ⟨0, printed format records, calls, files⟩ where
  code := rfl
  json := by
    rintro rfl
    rfl
  text := by
    rintro rfl
    rfl
  unasked := hunasked
  entered := hentered

theorem published_of_takesEntry (h : TakesEntry start records) :
    Published start format records (publish start format records calls) := by
  cases hpath : outputPath? start.environment with
  | none =>
      rw [publish_of_added (addResult_of_unasked hpath) rfl, String.append_empty]
      refine published_of_printed (fun _ => rfl) ?_
      intro path hsome
      rw [hpath] at hsome
      cases hsome
  | some path =>
      obtain ⟨hclash, ⟨location, old, hwritable⟩, hfits⟩ := h path hpath
      obtain ⟨hcause, hshown, hgrown⟩ := hwritable.extend_of_fits hfits
      have hadded := addResult_of_not_clashes hpath hclash rfl
      rw [hcause, hshown, if_neg (by decide)] at hadded
      rw [publish_of_added hadded rfl, String.append_empty]
      refine published_of_printed ?_ ?_
      · intro hnone
        rw [hpath] at hnone
        cases hnone
      · intro path' hsome
        rw [hpath] at hsome
        cases hsome
        exact hgrown

/-! ## An output file that takes the entry -/

/-- The output file, if there is one, is a file that can be appended to, or has yet to be
made. -/
def OutputReady (start : Start) : Prop :=
  ∀ path, outputPath? start.environment = some path →
    ∃ location old, start.files.Appendable path location old

/-- The delimiter is a fixed opening with something unique behind it that no text has seen
before. -/
structure FreshDelimiter (start : Start) (records : List Run.Record) : Prop where
  unique : ∃ drawn, start.delimiter = "ghadelimiter_" ++ drawn
  unseen : ¬start.delimiter.toList <:+: (Publish.json records).toList

theorem FreshDelimiter.not_clashes (h : FreshDelimiter start records) :
    ¬Clashes start records := by
  rintro (hname | hvalue)
  · obtain ⟨drawn, hdrawn⟩ := h.unique
    rw [hdrawn, String.toList_append] at hname
    exact Publish.not_append_infix (by decide) hname
  · exact h.unseen hvalue

theorem takesEntry_of_ready
    (hready : OutputReady start) (hdelimiter : FreshDelimiter start records) :
    TakesEntry start records := by
  intro path hpath
  obtain ⟨location, old, happendable⟩ := hready path hpath
  exact ⟨hdelimiter.not_clashes, ⟨location, old, happendable.toWritable⟩, happendable.fits _⟩

/-- A program whose options were accepted, whose run ends and whose output file is ready leaves
exactly one of two outcomes.  If the inputs are in order and the run completes, the records are
published; if not, the one message that is reported is that of the inputs, and then there are
no calls, or that of the command at which the run halted. -/
theorem run_publishes_or_reports
    (hgiven : Input.readOptions start.arguments start.environment = .ok given)
    (hready : OutputReady start)
    (hends : ∀ inputs, Input.inputs given start.stdin start.files = .ok inputs →
      (reportOf runner inputs).ending ≠ .hung)
    (hdelimiter : ∀ inputs, Input.inputs given start.stdin start.files = .ok inputs →
      (reportOf runner inputs).ending = .completed →
        FreshDelimiter start (reportOf runner inputs).records) :
    ∃ outcome, run start runner = some outcome ∧
      (∀ error, Input.inputs given start.stdin start.files = .error error →
        outcome.calls = [] ∧ Reported start error.message outcome) ∧
      (∀ inputs, Input.inputs given start.stdin start.files = .ok inputs →
        outcome.calls = (reportOf runner inputs).calls ∧
          (∀ failure, (reportOf runner inputs).ending = .halted failure →
            Reported start failure.message outcome) ∧
          ((reportOf runner inputs).ending = .completed →
            Published start inputs.format (reportOf runner inputs).records outcome)) ∧
      (outcome.code = 0 ↔ ∃ inputs,
        Input.inputs given start.stdin start.files = .ok inputs ∧
          (reportOf runner inputs).ending = .completed) := by
  cases hresult : Input.inputs given start.stdin start.files with
  | error error =>
      refine ⟨_, run_of_inputs_error hgiven hresult, ?_, by simp, ?_⟩
      · intro error' heq
        cases heq
        exact ⟨rfl, reported_failed⟩
      · simp
  | ok inputs =>
      cases hending : (reportOf runner inputs).ending with
      | hung => exact absurd hending (hends inputs hresult)
      | halted failure =>
          refine ⟨_, run_of_halted hgiven hresult hending, by simp, ?_, ?_⟩
          · intro inputs' heq
            cases heq
            refine ⟨rfl, ?_, by simp [hending]⟩
            intro failure' hfailure
            rw [hending] at hfailure
            cases hfailure
            exact reported_failed
          · simp [hending]
      | completed =>
          have hpublished : Published start inputs.format (reportOf runner inputs).records
              (publish start inputs.format (reportOf runner inputs).records
                (reportOf runner inputs).calls) :=
            published_of_takesEntry (takesEntry_of_ready hready (hdelimiter inputs hresult hending))
          refine ⟨_, run_of_completed hgiven hresult hending, by simp, ?_, ?_⟩
          · intro inputs' heq
            cases heq
            exact ⟨publish_calls, by simp [hending], fun _ => hpublished⟩
          · simp [hpublished.code, hending]

/-- Two commands are told of as text, and their entry goes behind the line that the output file
holds. -/
theorem run_publishes_two_commands :
    ∃ start : Start, ∃ runner : Tool.Runner, ∃ outcome,
      start.arguments = ["--script", "add a 1\nshow", "--output-format", "text"] ∧
        start.environment = [("GITHUB_OUTPUT", "/out")] ∧
        start.files.read "/out" = .ok (Text.Utf8.encode "a=1\n") ∧
        run start runner = some outcome ∧
        outcome.code = 0 ∧
        outcome.calls.map Tool.Invocation.arguments = [["add", "a", "1"], ["show"]] ∧
        outcome.stdout = "ok [0] add a 1\n  stdout: 7\nok [0] show\n  stdout: 7\n" ∧
        outcome.files.read "/out" = .ok (Text.Utf8.encode
          ("a=1\nresult<<ghadelimiter_0\n" ++
            "[\x7b\"command\":\"add a 1\",\"code\":0,\"stdout\":\"7\\n\",\"stderr\":\"\"\x7d," ++
            "\x7b\"command\":\"show\",\"code\":0,\"stdout\":\"7\\n\",\"stderr\":\"\"\x7d]\n" ++
            "ghadelimiter_0\n")) := by
  let start : Start :=
    { arguments := ["--script", "add a 1\nshow", "--output-format", "text"]
      environment := [("GITHUB_OUTPUT", "/out")]
      stdin := []
      files := { nodes := [(["out"], .file [97, 61, 49, 10])], working := [] }
      delimiter := "ghadelimiter_0" }
  let runner : Tool.Runner := fun _ => .exited ⟨0, "7\n", ""⟩
  let inputs : Input.Inputs :=
    { script := "add a 1\nshow", flags := {}, configuration := {}, format := .text }
  let given : Input.Given :=
    { script := some "add a 1\nshow", outputFormat := some .text }
  have hgiven : Input.readOptions start.arguments start.environment = .ok given := rfl
  have hinputs : Input.inputs given start.stdin start.files = .ok inputs := rfl
  have hpath : outputPath? start.environment = some "/out" := by
    decide +kernel
  have happendable : start.files.Appendable "/out" ["out"] [97, 61, 49, 10] :=
    ⟨⟨⟨Host.Path.parse "/out", rfl, by decide +kernel⟩, .inl rfl, rfl⟩, rfl⟩
  have hready : OutputReady start := by
    intro path hsome
    rw [hpath] at hsome
    cases hsome
    exact ⟨["out"], [97, 61, 49, 10], happendable⟩
  have hending : (reportOf runner inputs).ending = .completed := by
    decide +kernel
  have hunseen :
      ¬start.delimiter.toList <:+: (Publish.json (reportOf runner inputs).records).toList := by
    decide +kernel
  have hends : ∀ inputs, Input.inputs given start.stdin start.files = .ok inputs →
      (reportOf runner inputs).ending ≠ .hung := by
    intro inputs' heq
    rw [hinputs] at heq
    cases heq
    simp [hending]
  have hdelimiter : ∀ inputs, Input.inputs given start.stdin start.files = .ok inputs →
      (reportOf runner inputs).ending = .completed →
        FreshDelimiter start (reportOf runner inputs).records := by
    intro inputs' heq _
    rw [hinputs] at heq
    cases heq
    exact ⟨⟨"0", rfl⟩, hunseen⟩
  obtain ⟨outcome, hrun, -, hok, -⟩ := run_publishes_or_reports hgiven hready hends hdelimiter
  obtain ⟨hcalls, -, hcompleted⟩ := hok inputs hinputs
  have hpublished := hcompleted hending
  obtain ⟨location, old, hwritable, hread, -⟩ := hpublished.entered "/out" hpath
  obtain ⟨-, rfl⟩ := hwritable.unique happendable.toWritable
  refine ⟨start, runner, outcome, rfl, rfl, rfl, hrun, hpublished.code, ?_, ?_, ?_⟩
  · rw [hcalls]
    decide +kernel
  · rw [hpublished.text rfl]
    decide +kernel
  · rw [hread]
    exact congrArg Except.ok (by decide +kernel)

end Program
end MetricsScript
