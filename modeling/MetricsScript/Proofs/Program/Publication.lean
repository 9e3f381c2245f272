import MetricsScript.Proofs.Input.Inputs
import MetricsScript.Proofs.Program.Outcome
import MetricsScript.Proofs.Run.Steps
import MetricsScript.Proofs.Script.CommandLines

/-!
# Publishing to two places

The records of a completed run go to standard output first and to the output file next.  When
the file does not take the entry, the program fails although the result has been printed:
standard output then holds the result and the message behind it, and the file may hold the
beginning of the entry.  That is neither of the two ways for a program to end that `Outcome`
tells of.  A device that stands for the output file does take the entry, but no file holds it
afterwards.

A script that was accepted has a command, so there is always something to print and no failure
to write passes for a mere message.
-/

namespace MetricsScript
namespace Program

variable
  {start : Start} {runner : Tool.Runner} {given : Input.Given} {inputs : Input.Inputs}
  {format : Input.Format} {records : List Run.Record} {calls : List Tool.Invocation}
  {stdin : List UInt8} {files : Host.Files} {outcome : Outcome} {message : String}
  {device : Host.Device} {count? : Option Nat}

/-! ## Every completed run has something to print -/

theorem plan_ne_nil (hinputs : Input.inputs given stdin files = .ok inputs) :
    Run.plan inputs.script inputs.flags ≠ [] := by
  have hscript := Input.requiredScript_of_inputs hinputs
  rw [Input.requiredScript_eq_ok_iff] at hscript
  have hlines : commandLines inputs.script ≠ [] := by
    rw [ne_eq, commandLines_eq_nil_iff, hscript.2]
    decide
  simp [Run.plan, hlines]

theorem records_ne_nil
    (hinputs : Input.inputs given stdin files = .ok inputs)
    (hending : (reportOf runner inputs).ending = .completed) :
    (reportOf runner inputs).records ≠ [] := by
  intro hnil
  have hlength : (reportOf runner inputs).records.length =
      (Run.plan inputs.script inputs.flags).length :=
    Run.walk_records_length hending
  rw [hnil, List.length_nil, eq_comm, List.length_eq_zero_iff] at hlength
  exact plan_ne_nil hinputs hlength

/-- What is printed of records begins as no annotation does. -/
theorem head?_printed (h : records ≠ []) :
    ∃ c, (printed format records).toList.head? = some c ∧ c ≠ ':' := by
  cases format with
  | json => exact ⟨'[', by simp [printed, Publish.json], by decide⟩
  | text =>
      obtain ⟨record, rest, rfl⟩ := List.exists_cons_of_ne_nil h
      by_cases hcode : record.code = 0
      · refine ⟨'o', ?_, by decide⟩
        simp [printed, Publish.summary, Publish.summaryBlock, Publish.summaryHeader, hcode]
      · refine ⟨'F', ?_, by decide⟩
        simp [printed, Publish.summary, Publish.summaryBlock, Publish.summaryHeader, hcode]

theorem not_reported_of_printed {rest : String} (h : records ≠ [])
    (hstdout : outcome.stdout = printed format records ++ rest) :
    ¬Reported start message outcome := by
  intro hreported
  obtain ⟨c, hhead, hne⟩ : ∃ c, (printed format records).toList.head? = some c ∧ c ≠ ':' :=
    head?_printed h
  have hprinted : outcome.stdout.toList.head? = some c := by
    simp [hstdout, hhead]
  rw [hreported.stdout] at hprinted
  have hcolon : (Publish.errorAnnotation message ++ "\n").toList.head? = some ':' := by
    simp [Publish.errorAnnotation]
  exact hne (Option.some.inj (hprinted.symm.trans hcolon))

/-! ## An output file that does not take the entry -/

/-- What keeps the entry from being added to the output file: what is reported, and how many
bytes of the entry the file takes all the same, unless it is not even opened. -/
inductive Obstructed (start : Start) (records : List Run.Record) :
    String → Option Nat → Prop where
  /-- The delimiter stands within the entry. -/
  | delimiter {path : String} (hpath : outputPath? start.environment = some path)
      (hclash : Clashes start records) :
      Obstructed start records (Publish.OutputError.delimiterInside start.delimiter).message none
  /-- The entry cannot be appended. -/
  | file {path : String} {cause : SystemError} {count? : Option Nat}
      (hpath : outputPath? start.environment = some path) (hclash : ¬Clashes start records)
      (hobstacle : start.files.Obstacle path (Text.Utf8.encode (resultEntry start records))
        cause count?) :
      Obstructed start records cause.message count?

/-- The output file is a device that takes the entry. -/
def TakenByDevice (start : Start) (records : List Run.Record) (device : Host.Device) : Prop :=
  ∃ path, outputPath? start.environment = some path ∧ ¬Clashes start records ∧
    start.files.LeadsToDevice path device ∧ device ≠ .full

/-- The program has failed, but the result stands on standard output in front of the message.
No file has changed, unless the output file has grown by a part of the entry. -/
structure BrokenOff
    (start : Start) (format : Input.Format) (records : List Run.Record) (message : String)
    (count? : Option Nat) (outcome : Outcome) : Prop where
  code : outcome.code = 1
  stdout : outcome.stdout =
    printed format records ++ (Publish.errorAnnotation message ++ "\n")
  files : ∃ path, outputPath? start.environment = some path ∧
    start.files.Partly outcome.files path (Text.Utf8.encode (resultEntry start records)) count?

/-- The program has succeeded and has changed no file.  The entry stands behind the result if
the device is standard output. -/
structure Diverted
    (start : Start) (format : Input.Format) (records : List Run.Record) (device : Host.Device)
    (outcome : Outcome) : Prop where
  code : outcome.code = 0
  stdout : outcome.stdout =
    printed format records ++ (if device = .output then resultEntry start records else "")
  files : outcome.files = start.files

theorem encode_resultEntry_ne_nil (start : Start) (records : List Run.Record) :
    Text.Utf8.encode (resultEntry start records) ≠ [] :=
  Publish.encode_entryText_ne_nil

/-- There are no other ways for the entry to fare. -/
theorem takesEntry_or_obstructed_or_taken (start : Start) (records : List Run.Record) :
    TakesEntry start records ∨ (∃ message count?, Obstructed start records message count?) ∨
      ∃ device, TakenByDevice start records device := by
  cases hpath : outputPath? start.environment with
  | none =>
      left
      intro path hsome
      rw [hpath] at hsome
      cases hsome
  | some path =>
      by_cases hclash : Clashes start records
      · exact .inr (.inl ⟨_, none, .delimiter hpath hclash⟩)
      obtain ⟨location, old, hwritable, hfits⟩ | ⟨cause, count?, hobstacle⟩ |
          ⟨device, hdevice⟩ :=
        start.files.fits_or_obstacle_or_device path (encode_resultEntry_ne_nil start records)
      · left
        intro path' hsome
        rw [hpath] at hsome
        cases hsome
        exact ⟨hclash, ⟨location, old, hwritable⟩, hfits⟩
      · exact .inr (.inl ⟨_, count?, .file hpath hclash hobstacle⟩)
      · exact .inr (.inr ⟨device, path, hpath, hclash, hdevice⟩)

theorem brokenOff_of_obstructed (h : Obstructed start records message count?) :
    BrokenOff start format records message count?
      (publish start format records calls) := by
  cases h with
  | @delimiter path hpath hclash =>
      rw [publish_of_not_added (addResult_of_clashes hpath hclash) rfl, String.append_empty]
      exact
        { code := failed_code
          stdout := failed_stdout
          files := ⟨path, hpath, rfl⟩ }
  | @file path cause count? hpath hclash hobstacle =>
      obtain ⟨hcause, hshown, hpartly⟩ := hobstacle.extend
      have hadded := addResult_of_not_clashes hpath hclash rfl
      rw [hcause, hshown, if_neg (by decide)] at hadded
      rw [publish_of_not_added hadded rfl, String.append_empty]
      exact
        { code := failed_code
          stdout := failed_stdout
          files := ⟨path, hpath, hpartly⟩ }

theorem diverted_of_taken (h : TakenByDevice start records device) :
    Diverted start format records device (publish start format records calls) := by
  obtain ⟨path, hpath, hclash, hdevice, hfull⟩ := h
  have hadded := addResult_of_not_clashes hpath hclash (hdevice.extend_eq hfull)
  rw [publish_of_added hadded rfl]
  exact
    { code := rfl
      stdout := by simp only [decide_eq_true_eq]
      files := rfl }

theorem not_published_of_taken (h : TakenByDevice start records device) :
    ¬Published start format records outcome := by
  obtain ⟨path, hpath, -, hdevice, -⟩ := h
  intro hpublished
  obtain ⟨location, old, hwritable, -⟩ := hpublished.entered path hpath
  exact hdevice.not_writable hwritable

/-! ## The outcome of a completed run -/

theorem published_or_reported_iff (hrecords : records ≠ []) :
    (Published start format records (publish start format records calls) ∨
        ∃ message, Reported start message (publish start format records calls)) ↔
      TakesEntry start records := by
  constructor
  · intro hends
    obtain htakes | ⟨message, count?, hobstructed⟩ | ⟨device, htaken⟩ :=
      takesEntry_or_obstructed_or_taken start records
    · exact htakes
    · have hbroken : BrokenOff start format records message count?
          (publish start format records calls) :=
        brokenOff_of_obstructed hobstructed
      rcases hends with hpublished | ⟨message', hreported⟩
      · exact absurd (hbroken.code.symm.trans hpublished.code) (by decide)
      · exact absurd hreported (not_reported_of_printed hrecords hbroken.stdout)
    · have hdiverted : Diverted start format records device
          (publish start format records calls) :=
        diverted_of_taken htaken
      rcases hends with hpublished | ⟨message', hreported⟩
      · exact absurd hpublished (not_published_of_taken htaken)
      · exact absurd hreported (not_reported_of_printed hrecords hdiverted.stdout)
  · exact fun htakes => .inl (published_of_takesEntry htakes)

/-- A completed run leaves everything or, beside a message, nothing exactly if the output file,
should there be one, is a file that takes the whole entry.  Otherwise the result is printed all
the same.  If something keeps the entry from being added (the path leads nowhere or to a
directory, the file is read-only, the disk is full before the end of the entry), the program
fails with the message behind the result; if a device takes the entry, the program succeeds. -/
theorem completed_run_all_or_nothing_iff
    (hgiven : Input.readOptions start.arguments start.environment = .ok given)
    (hinputs : Input.inputs given start.stdin start.files = .ok inputs)
    (hending : (reportOf runner inputs).ending = .completed) :
    let records := (reportOf runner inputs).records
    ∃ outcome, run start runner = some outcome ∧
      outcome.calls = (reportOf runner inputs).calls ∧
      (TakesEntry start records → Published start inputs.format records outcome) ∧
      (∀ message count?, Obstructed start records message count? →
        BrokenOff start inputs.format records message count? outcome) ∧
      (∀ device, TakenByDevice start records device →
        Diverted start inputs.format records device outcome) ∧
      (TakesEntry start records ∨ (∃ message count?, Obstructed start records message count?) ∨
        ∃ device, TakenByDevice start records device) ∧
      ((Published start inputs.format records outcome ∨
          ∃ message, Reported start message outcome) ↔ TakesEntry start records) := by
  intro records
  exact ⟨_, run_of_completed hgiven hinputs hending, publish_calls, published_of_takesEntry,
    fun _ _ => brokenOff_of_obstructed, fun _ => diverted_of_taken,
    takesEntry_or_obstructed_or_taken start records,
    published_or_reported_iff (records_ne_nil hinputs hending)⟩

/-- Two commands, the records of which are asked for as text, and an output file that holds a
line. -/
def textAndFile
    (refusals : List (Host.Location × SystemError)) (limit : Option Host.Limit) : Start where
  arguments := ["--script", "pull\npush", "--output-format", "text"]
  environment := [("GITHUB_OUTPUT", "/out")]
  stdin := []
  files := { nodes := [(["out"], .file [97, 61, 49, 10])], working := [], refusals, limit }
  delimiter := "ghadelimiter_0"

/-- The output file is read-only, or the disk takes no more than five bytes of the entry, and the
summary is printed all the same. -/
theorem summary_printed_before_failures :
    let runner : Tool.Runner := fun _ => .exited .silent
    (∃ outcome, run (textAndFile [(["out"], .permissionDenied)] none) runner = some outcome ∧
      outcome.code = 1 ∧
      outcome.stdout =
        "ok [0] pull\nok [0] push\n::error::Permission denied (os error 13)\n") ∧
      ∃ outcome, run (textAndFile [] (some ⟨5, .noSpace⟩)) runner = some outcome ∧
        outcome.code = 1 ∧
        outcome.stdout =
          "ok [0] pull\nok [0] push\n::error::No space left on device (os error 28)\n" ∧
        outcome.files.read "/out" = .ok (Text.Utf8.encode "a=1\nresul") := by
  intro runner
  let inputs : Input.Inputs :=
    { script := "pull\npush", flags := {}, configuration := {}, format := .text }
  let given : Input.Given := { script := some "pull\npush", outputFormat := some .text }
  let records := (reportOf runner inputs).records
  have hending : (reportOf runner inputs).ending = .completed := by
    decide +kernel
  have hunseen : ¬"ghadelimiter_0".toList <:+: (Publish.json records).toList := by
    decide +kernel
  have hpath : outputPath? [("GITHUB_OUTPUT", "/out")] = some "/out" := by
    decide +kernel
  have hlocate {refusals : List (Host.Location × SystemError)} {limit : Option Host.Limit} :
      (textAndFile refusals limit).files.locate "/out" = .ok (["out"], Host.Path.parse "/out") :=
    rfl
  have hclosed : (Host.Path.parse "/out").closed = false := by
    decide +kernel
  have hbroken (refusals : List (Host.Location × SystemError)) (limit : Option Host.Limit)
      (cause : SystemError) (count? : Option Nat)
      (hobstacle : (textAndFile refusals limit).files.Obstacle "/out"
        (Text.Utf8.encode (resultEntry (textAndFile refusals limit) records)) cause count?) :
      ∃ outcome, run (textAndFile refusals limit) runner = some outcome ∧
        BrokenOff (textAndFile refusals limit) .text records cause.message count? outcome := by
    have hclash : ¬Clashes (textAndFile refusals limit) records :=
      FreshDelimiter.not_clashes ⟨⟨"0", rfl⟩, hunseen⟩
    have hgiven : Input.readOptions (textAndFile refusals limit).arguments
        (textAndFile refusals limit).environment = .ok given := rfl
    have hinputs : Input.inputs given (textAndFile refusals limit).stdin
        (textAndFile refusals limit).files = .ok inputs := rfl
    obtain ⟨outcome, hrun, -, -, hbroken, -⟩ :=
      completed_run_all_or_nothing_iff hgiven hinputs hending
    exact ⟨outcome, hrun, hbroken _ _ (.file hpath hclash hobstacle)⟩
  constructor
  · obtain ⟨outcome, hrun, hbroken⟩ := hbroken [(["out"], .permissionDenied)] none
      .permissionDenied none (.refused hlocate hclosed nofun rfl)
    refine ⟨outcome, hrun, hbroken.code, ?_⟩
    rw [hbroken.stdout]
    decide +kernel
  · have hwritable : (textAndFile [] (some ⟨5, .noSpace⟩)).files.Writable "/out" ["out"]
        [97, 61, 49, 10] :=
      ⟨⟨_, hlocate, hclosed⟩, .inl rfl, rfl⟩
    obtain ⟨outcome, hrun, hbroken⟩ := hbroken [] (some ⟨5, .noSpace⟩) .noSpace (some 5)
      (.short hwritable rfl (by decide +kernel))
    obtain ⟨path, hsome, -, location, old, hwritable', hread, -⟩ := hbroken.files
    obtain rfl : "/out" = path := Option.some.inj (hpath.symm.trans hsome)
    obtain ⟨-, rfl⟩ := hwritable.unique hwritable'
    refine ⟨outcome, hrun, hbroken.code, ?_, ?_⟩
    · rw [hbroken.stdout]
      decide +kernel
    · rw [hread]
      exact congrArg Except.ok (by decide +kernel)

/-- The output file is a directory.  The program fails with the result on standard output and a
message behind it, so it has neither published the records nor reported a message only. -/
theorem result_printed_before_failure :
    let start : Start :=
      { arguments := ["--script", "show"]
        environment := [("GITHUB_OUTPUT", "/")]
        stdin := []
        files := { nodes := [], working := [] }
        delimiter := "ghadelimiter_0" }
    let runner : Tool.Runner := fun _ => .exited ⟨0, "some output", "some error"⟩
    let records : List Run.Record := [⟨"show", 0, "some output", "some error"⟩]
    ∃ outcome, run start runner = some outcome ∧
      outcome.code = 1 ∧
      outcome.stdout =
        Publish.json records ++ "\n" ++ "::error::Is a directory (os error 21)\n" ∧
      ¬(Published start .json records outcome ∨
        ∃ message, Reported start message outcome) := by
  intro start runner records
  have hrun : run start runner =
      some (failed "Is a directory (os error 21)" (printed .json records)
        [Run.Configuration.call {} "show"] start.files) := by
    decide +kernel
  refine ⟨_, hrun, rfl, by decide +kernel, ?_⟩
  have hrecords : records ≠ [] := by decide
  rintro (hpublished | ⟨message, hreported⟩)
  · exact absurd hpublished.code (by decide)
  · exact not_reported_of_printed hrecords failed_stdout hreported

end Program
end MetricsScript
