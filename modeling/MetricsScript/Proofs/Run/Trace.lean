import MetricsScript.Proofs.Run.Steps

/-!
# What the trace of a run tells

The trace of a run that does not hang can be told from its report: every record stands for the
events of its command, in order, and only the end is told by how the run ended.  A command that
could not be launched has left no record, and is opened before the trace says so.
-/

namespace MetricsScript
namespace Run

/-- The events that a record stands for. -/
def recordEvents (config : Configuration) (record : Record) : List Event :=
  openingEvents record.command ++ exitEvents record.code ++
    (if record.code ≠ 0 ∧ config.continueOnError = true then
      [.failurePassedOver record.command record.code]
    else [])

/-- The event that tells of a failure. -/
def Failure.event : Failure → Event
  | .commandFailed command code => .failureHalted command code
  | .launchFailed command _ cause => .launchRefused command cause

/-- The command that was invoked and has left no record. -/
def Ending.unrecorded : Ending → List String
  | .halted (.launchFailed command _ _) => [command]
  | .halted (.commandFailed _ _) | .completed | .hung => []

/-- The event that tells of the failure a run ended with. -/
def Ending.failureEvents : Ending → List Event
  | .halted failure => [failure.event]
  | .completed | .hung => []

/-- What the walk of a plan leaves if it does not hang: every command that was invoked has left a
record but for the last one, which may not have been launched; a command that halts the run is
the last one invoked; and the events tell no more than the records and the ending do. -/
structure Told (config : Configuration) (commands : List String) (report : Report) : Prop where
  invoked : commands.take report.calls.length =
    report.records.map Record.command ++ report.ending.unrecorded
  halted : ∀ failure, report.ending = .halted failure →
    (commands.take report.calls.length).getLast? = some failure.command
  events : report.events =
    report.records.flatMap (recordEvents config) ++
      report.ending.unrecorded.flatMap openingEvents ++ report.ending.failureEvents

variable
  {config : Configuration} {runner : Tool.Runner} {history : List Tool.Invocation}
  {command : String} {rest commands : List String}

/-! ## One command -/

theorem step_events_of_not_stops
    {output : Tool.Output}
    (hanswer : runner (history ++ [config.call command]) = .exited output)
    (h : ¬config.Stops (.exited output)) :
    (step config runner history command).events =
      recordEvents config (recordOf command output) := by
  rw [Configuration.call] at hanswer
  by_cases hcode : output.code = 0
  · simp [step, hanswer, hcode, recordEvents, recordOf]
  · have hcontinue : config.continueOnError = true := by
      simpa [Configuration.Stops, hcode] using h
    simp [step, hanswer, hcode, hcontinue, recordEvents, recordOf]

theorem step_events_of_stops
    {output : Tool.Output}
    (hanswer : runner (history ++ [config.call command]) = .exited output)
    (h : config.Stops (.exited output)) :
    (step config runner history command).events =
      recordEvents config (recordOf command output) ++ [.failureHalted command output.code] := by
  obtain ⟨hcode, hcontinue⟩ := h
  rw [Configuration.call] at hanswer
  simp [step, hanswer, hcode, hcontinue, recordEvents, recordOf]

theorem step_events_of_failed
    {cause : SystemError}
    (hanswer : runner (history ++ [config.call command]) = .failed cause) :
    (step config runner history command).events =
      openingEvents command ++ [.launchRefused command cause] := by
  rw [Configuration.call] at hanswer
  simp [step, hanswer]

/-- A command hangs only if its program does. -/
theorem step_ending_ne_hung (h : runner (history ++ [config.call command]) ≠ .hung) :
    (step config runner history command).ending ≠ .hung := by
  cases hanswer : runner (history ++ [config.call command]) with
  | hung => exact absurd hanswer h
  | failed cause => simp [(step_of_failed hanswer).2]
  | exited output =>
      by_cases hstops : config.Stops (.exited output)
      · simp [(step_of_stops_exited hanswer hstops).2]
      · rw [← hanswer] at hstops
        obtain ⟨-, -, -, hending⟩ := step_of_not_stops hstops
        simp [hending]

/-! ## The whole plan -/

theorem told_nil : Told config [] (walk config runner history []) :=
  ⟨rfl, nofun, rfl⟩

/-- A command that stops the run ends its trace, unless it hangs. -/
theorem told_of_stops
    (hstops : config.Stops (runner (history ++ [config.call command])))
    (hung : (step config runner history command).ending ≠ .hung) :
    Told config (command :: rest) (step config runner history command) := by
  cases hanswer : runner (history ++ [config.call command]) with
  | hung => exact absurd (step_of_hung hanswer).2 hung
  | failed cause =>
      obtain ⟨hrecords, hending⟩ := step_of_failed hanswer
      have hevents := step_events_of_failed hanswer
      constructor
      case invoked => simp [hrecords, hending, Ending.unrecorded]
      case halted => simp [hending, Failure.command]
      case events =>
        simp [hrecords, hending, hevents, Ending.unrecorded, Ending.failureEvents, Failure.event]
  | exited output =>
      rw [hanswer] at hstops
      obtain ⟨hrecords, hending⟩ := step_of_stops_exited hanswer hstops
      have hevents := step_events_of_stops hanswer hstops
      constructor
      case invoked => simp [hrecords, hending, Ending.unrecorded, recordOf]
      case halted => simp [hending, Failure.command]
      case events =>
        simp [hrecords, hending, hevents, Ending.unrecorded, Ending.failureEvents, Failure.event]

/-- Behind a command that does not stop the run the trace goes on. -/
theorem Told.cons
    {report : Report} (h : Told config rest report)
    (hgoes : ¬config.Stops (runner (history ++ [config.call command]))) :
    Told config (command :: rest) ((step config runner history command).append report) := by
  obtain ⟨output, hanswer, hrecords, -⟩ := step_of_not_stops hgoes
  rw [hanswer] at hgoes
  have hevents := step_events_of_not_stops hanswer hgoes
  constructor
  case invoked =>
    simp only [Report.append, step_calls, hrecords, List.cons_append, List.nil_append,
      List.length_cons, List.take_succ_cons, List.map_cons]
    rw [← h.invoked]
    rfl
  case halted =>
    intro failure hending
    simp only [Report.append, step_calls, List.singleton_append, List.length_cons,
      List.take_succ_cons, List.getLast?_cons]
    rw [h.halted failure hending]
    rfl
  case events =>
    simp only [Report.append, hrecords, hevents, h.events, List.singleton_append,
      List.flatMap_cons, List.append_assoc]

theorem walk_told (h : (walk config runner history commands).ending ≠ .hung) :
    Told config commands (walk config runner history commands) := by
  induction commands generalizing history with
  | nil => exact told_nil
  | cons command rest ih =>
      by_cases hstops : config.Stops (runner (history ++ [config.call command]))
      · rw [walk_cons_of_stops hstops] at h ⊢
        exact told_of_stops hstops h
      · rw [walk_cons_of_not_stops hstops] at h ⊢
        exact (ih h).cons hstops

/-- A run hangs only if its runner does. -/
theorem walk_ending_ne_hung (h : ∀ calls, runner calls ≠ .hung) :
    (walk config runner history commands).ending ≠ .hung := by
  induction commands generalizing history with
  | nil => simp [walk]
  | cons command rest ih =>
      by_cases hstops : config.Stops (runner (history ++ [config.call command]))
      · rw [walk_cons_of_stops hstops]
        exact step_ending_ne_hung (h _)
      · rw [walk_cons_of_not_stops hstops]
        exact ih

/-! ## Kinds of events -/

/-- Whether an event belongs to the opening of a command. -/
def Event.isOpening (event : Event) : Bool :=
  event.message ∈ ["ignoring non-literal tokens", "gms.cmd", "executing command"]

theorem message_ne_of_isOpening {message : String}
    (hmessage : message ∉ ["ignoring non-literal tokens", "gms.cmd", "executing command"])
    (event : Event) (h : event.isOpening = true) : (event.message == message) = false := by
  rw [beq_eq_false_iff_ne]
  rintro rfl
  exact hmessage (of_decide_eq_true h)

theorem label_ne_of_isOpening {label : String} (hlabel : label ∉ ["DEBUG", "SPAN"])
    (event : Event) (h : event.isOpening = true) : (event.label == label) = false := by
  have hopening : event.label ∈ ["DEBUG", "SPAN"] := by
    cases event
    all_goals simp [Event.isOpening, Event.message, Event.label] at h ⊢
  rw [beq_eq_false_iff_ne]
  rintro rfl
  exact hlabel hopening

theorem openingEvents_eq (command : String) :
    openingEvents command =
      (if Command.discarded command = [] then []
        else [.partsIgnored command (Command.discarded command)]) ++
      [.commandOpened command, .commandStarted (Command.arguments command)] := by
  simp only [openingEvents, List.isEmpty_iff]

theorem filter_isOpening_openingEvents (command : String) :
    (openingEvents command).filter Event.isOpening = openingEvents command := by
  rw [openingEvents_eq]
  split
  · simp [Event.isOpening, Event.message]
  · simp [Event.isOpening, Event.message]

theorem filter_recordEvents (p : Event → Bool) (record : Record) :
    (recordEvents config record).filter p =
      (openingEvents record.command).filter p ++ (exitEvents record.code).filter p ++
        (if record.code ≠ 0 ∧ config.continueOnError = true then
          [Event.failurePassedOver record.command record.code].filter p
        else []) := by
  rw [recordEvents, List.filter_append, List.filter_append]
  split
  · rfl
  · rfl

theorem filter_isOpening_recordEvents (record : Record) :
    (recordEvents config record).filter Event.isOpening = openingEvents record.command := by
  rw [filter_recordEvents, filter_isOpening_openingEvents]
  simp [exitEvents, Event.isOpening, Event.message]

/-- Of any other kind there are no events at the opening of a command. -/
theorem filter_openingEvents
    {p : Event → Bool} (h : ∀ event : Event, event.isOpening = true → p event = false)
    (command : String) : (openingEvents command).filter p = [] := by
  rw [← filter_isOpening_openingEvents, List.filter_filter, List.filter_eq_nil_iff]
  intro event _
  rw [Bool.and_eq_true]
  rintro ⟨hp, hopening⟩
  rw [h event hopening] at hp
  cases hp

/-- The events of a record that are of a kind no opening is of. -/
theorem filter_flatMap_recordEvents
    {p : Event → Bool} (h : ∀ event : Event, event.isOpening = true → p event = false)
    (records : List Record) :
    (records.flatMap (recordEvents config)).filter p =
      records.flatMap fun record => (exitEvents record.code).filter p ++
        (if record.code ≠ 0 ∧ config.continueOnError = true then
          [Event.failurePassedOver record.command record.code].filter p
        else []) := by
  rw [List.filter_flatMap]
  simp only [filter_recordEvents, filter_openingEvents h, List.nil_append]

theorem flatMap_passedOver (records : List Record) :
    records.flatMap (fun record =>
        if record.code ≠ 0 then [Event.failurePassedOver record.command record.code] else []) =
      (records.filter fun record => record.code ≠ 0).map fun record =>
        .failurePassedOver record.command record.code := by
  induction records with
  | nil => rfl
  | cons record records ih =>
      rw [List.flatMap_cons, ih]
      by_cases hcode : record.code = 0
      · simp [hcode]
      · simp [hcode]

theorem filter_label_record (records : List Record) :
    (records.flatMap (recordEvents config)).filter (·.label == "RECORD") =
      records.map fun record => .codeRecorded record.code := by
  rw [filter_flatMap_recordEvents (label_ne_of_isOpening (by decide)), List.map_eq_flatMap]
  simp [exitEvents, Event.label]

theorem filter_label_warn (records : List Record) :
    (records.flatMap (recordEvents config)).filter (·.label == "WARN") =
      if config.continueOnError then
        (records.filter fun record => record.code ≠ 0).map fun record =>
          .failurePassedOver record.command record.code
      else [] := by
  rw [filter_flatMap_recordEvents (label_ne_of_isOpening (by decide)), ← flatMap_passedOver]
  cases config.continueOnError with
  | false => simp [exitEvents, Event.label]
  | true => simp [exitEvents, Event.label]

/-! ## The trace of a run -/

/-- The event that tells of the end of a run. -/
def Report.closingEvents (report : Report) : List Event :=
  match report.ending with
  | .completed => [.runCompleted report.records.length]
  | .halted failure => [failure.event]
  | .hung => []

/-- The trace that a report of a plan with `n` commands mirrors. -/
def Report.trace (report : Report) (config : Configuration) (n : Nat) : List Event :=
  .runStarted n config.backend config.continueOnError ::
    (report.records.flatMap (recordEvents config) ++
      report.ending.unrecorded.flatMap openingEvents ++ report.closingEvents)

/-- The trace of a run mirrors its report.  It begins with the start of the run; every command that
was invoked is opened, in the order of the plan, behind a notice of what its arguments leave out if
they leave anything out, and with the arguments of its invocation behind it; every record has its
code recorded, and a warning if it is passed over; and how the run ended is told once, at the
end. -/
structure Mirrors (config : Configuration) (commands : List String) (report : Report) : Prop where
  events : report.events = report.trace config commands.length
  started : report.events.filter (·.message == "starting run") =
    [.runStarted commands.length config.backend config.continueOnError]
  calls : report.calls = (commands.take report.calls.length).map config.call
  opened : report.events.filter Event.isOpening =
    (commands.take report.calls.length).flatMap fun command =>
      (if Command.discarded command = [] then []
        else [.partsIgnored command (Command.discarded command)]) ++
      [.commandOpened command, .commandStarted (config.call command).arguments]
  recorded : report.events.filter (·.label == "RECORD") =
    report.records.map fun record => .codeRecorded record.code
  warned : report.events.filter (·.label == "WARN") =
    if config.continueOnError then
      (report.records.filter fun record => record.code ≠ 0).map fun record =>
        .failurePassedOver record.command record.code
    else []
  completed : report.ending = .completed →
    report.events.getLast? = some (.runCompleted report.records.length) ∧
      report.events.filter (·.message == "run completed") =
        [.runCompleted report.records.length] ∧
      report.events.filter (·.label == "ERROR") = []
  halted : ∀ failure, report.ending = .halted failure →
    report.events.getLast? = some failure.event ∧
      report.events.filter (·.label == "ERROR") = [failure.event] ∧
      Event.field "command" failure.command ∈ failure.event.fields ∧
      (commands.take report.calls.length).getLast? = some failure.command ∧
      report.events.filter (·.message == "run completed") = []

variable {report : Report} {n : Nat}

theorem Told.events_framed (h : Told config commands report) :
    (report.framed config n).events = report.trace config n := by
  rw [Report.framed, h.events, Report.trace]
  cases hending : report.ending with
  | completed => simp [Ending.unrecorded, Ending.failureEvents, Report.closingEvents, hending]
  | halted failure => simp [Ending.failureEvents, Report.closingEvents, hending]
  | hung => simp [Ending.unrecorded, Ending.failureEvents, Report.closingEvents, hending]

theorem Failure.label_event (failure : Failure) : failure.event.label = "ERROR" := by
  cases failure
  all_goals rfl

theorem Failure.field_command_mem_event (failure : Failure) :
    Event.field "command" failure.command ∈ failure.event.fields := by
  cases failure
  all_goals exact List.mem_cons_self

/-- The events of the openings in a trace are those of the commands that were invoked. -/
theorem filter_isOpening_trace :
    (report.trace config n).filter Event.isOpening =
      (report.records.map Record.command ++ report.ending.unrecorded).flatMap openingEvents := by
  have hclosing : report.closingEvents.filter Event.isOpening = [] := by
    unfold Report.closingEvents
    split
    · rfl
    · next failure _ => cases failure <;> rfl
    · rfl
  rw [Report.trace, List.filter_cons, List.filter_append, List.filter_append, hclosing,
    List.filter_flatMap, List.filter_flatMap, List.flatMap_append, List.flatMap_map]
  simp only [filter_isOpening_recordEvents, filter_isOpening_openingEvents, List.append_nil]
  rfl

/-- Of a kind that no opening is of there are, in a trace, the events of the records and those at
both ends. -/
theorem filter_trace
    {p : Event → Bool} (h : ∀ event : Event, event.isOpening = true → p event = false) :
    (report.trace config n).filter p =
      [Event.runStarted n config.backend config.continueOnError].filter p ++
        (report.records.flatMap (recordEvents config)).filter p ++
        report.closingEvents.filter p := by
  rw [Report.trace, ← List.singleton_append, List.filter_append, List.filter_append,
    List.filter_append, List.filter_flatMap (l := report.ending.unrecorded)]
  simp [filter_openingEvents h]

/-- A kind of event that neither openings nor records have stands at the ends of a trace alone. -/
theorem filter_trace_ends
    {p : Event → Bool} (h : ∀ event : Event, event.isOpening = true → p event = false)
    (hrecorded : ∀ code, p (.codeRecorded code) = false)
    (hexited : ∀ code, p (.commandExited code) = false)
    (hpassed : ∀ command code, p (.failurePassedOver command code) = false) :
    (report.trace config n).filter p =
      [Event.runStarted n config.backend config.continueOnError].filter p ++
        report.closingEvents.filter p := by
  rw [filter_trace h, filter_flatMap_recordEvents h]
  simp [exitEvents, hrecorded, hexited, hpassed]

/-- What tells neither of a completed run nor of a failure is not in the closing of a trace. -/
theorem filter_closingEvents
    {p : Event → Bool} (hcompleted : ∀ n, p (.runCompleted n) = false)
    (hfailure : ∀ failure : Failure, p failure.event = false) :
    report.closingEvents.filter p = [] := by
  unfold Report.closingEvents
  split
  · simp [hcompleted]
  · simp [hfailure]
  · rfl

theorem closingEvents_of_completed (h : report.ending = .completed) :
    report.closingEvents = [.runCompleted report.records.length] := by
  rw [Report.closingEvents, h]

theorem closingEvents_of_halted {failure : Failure} (h : report.ending = .halted failure) :
    report.closingEvents = [failure.event] := by
  rw [Report.closingEvents, h]

theorem getLast?_trace {event : Event} (h : report.closingEvents = [event]) :
    (report.trace config n).getLast? = some event := by
  rw [Report.trace, h, ← List.cons_append, List.getLast?_concat]

theorem Told.mirrors
    (h : Told config commands report)
    (hcalls : report.calls = (commands.take report.calls.length).map config.call) :
    Mirrors config commands (report.framed config commands.length) := by
  have hevents : (report.framed config commands.length).events =
      report.trace config commands.length := h.events_framed
  have hclosed : (report.trace config commands.length).filter (·.message == "run completed") =
      report.closingEvents.filter (·.message == "run completed") :=
    filter_trace_ends (message_ne_of_isOpening (by decide))
      (fun _ => rfl) (fun _ => rfl) (fun _ _ => rfl)
  have hfailed : (report.trace config commands.length).filter (·.label == "ERROR") =
      report.closingEvents.filter (·.label == "ERROR") :=
    filter_trace_ends (label_ne_of_isOpening (by decide))
      (fun _ => rfl) (fun _ => rfl) (fun _ _ => rfl)
  constructor
  case events => exact hevents
  case started =>
    rw [hevents, filter_trace_ends (message_ne_of_isOpening (by decide))
      (fun _ => rfl) (fun _ => rfl) (fun _ _ => rfl),
      filter_closingEvents (fun _ => rfl) (fun failure => by cases failure <;> rfl)]
    rfl
  case calls => exact hcalls
  case opened =>
    rw [hevents, filter_isOpening_trace, ← h.invoked, funext openingEvents_eq]
    rfl
  case recorded =>
    rw [hevents, filter_trace (label_ne_of_isOpening (by decide)), filter_label_record,
      filter_closingEvents (fun _ => rfl) (fun failure => by rw [failure.label_event]; rfl),
      List.append_nil]
    rfl
  case warned =>
    rw [hevents, filter_trace (label_ne_of_isOpening (by decide)), filter_label_warn,
      filter_closingEvents (fun _ => rfl) (fun failure => by rw [failure.label_event]; rfl),
      List.append_nil]
    rfl
  case completed =>
    intro hending
    have hclosing : report.closingEvents = [.runCompleted report.records.length] :=
      closingEvents_of_completed hending
    rw [hevents, hclosed, hfailed, hclosing]
    exact ⟨getLast?_trace hclosing, rfl, rfl⟩
  case halted =>
    intro failure hending
    have hclosing : report.closingEvents = [failure.event] := closingEvents_of_halted hending
    have herror : [failure.event].filter (·.label == "ERROR") = [failure.event] := by
      simp [failure.label_event]
    rw [hevents, hclosed, hfailed, hclosing, herror]
    refine ⟨getLast?_trace hclosing, rfl, failure.field_command_mem_event,
      h.halted failure hending, ?_⟩
    cases failure
    all_goals rfl

/-- The trace of a run that does not hang mirrors its report, and a run hangs only if its runner
does. -/
theorem run_trace_mirrors_report
    (config : Configuration) (runner : Tool.Runner) (history : List Tool.Invocation)
    (script : String) (flags : Flags) :
    let report := run config runner history script flags
    ((∀ calls, runner calls ≠ .hung) → report.ending ≠ .hung) ∧
      (report.ending ≠ .hung → Mirrors config (plan script flags) report) := by
  intro report
  constructor
  · intro h
    exact walk_ending_ne_hung h
  · intro h
    refine (walk_told h).mirrors ?_
    rw [List.map_take]
    exact List.prefix_iff_eq_take.mp walk_calls_prefix

/-- A runner whose second program fails and whose third one cannot be launched. -/
def thirdRefused : Tool.Runner := fun history =>
  if history.length = 3 then .failed .notFound
  else .exited (if history.length = 2 then ⟨3, "", "no"⟩ else .silent)

/-- The failure that was passed over has its warning, and the trace ends with the launch that was
refused, which nothing was recorded of. -/
theorem run_trace_of_refused_launch :
    let report := run { continueOnError := true } thirdRefused [] "show *\nadd x\ncheck" {}
    report.ending ≠ .hung ∧
      report.events.filter (·.label == "WARN") = [.failurePassedOver "add x" 3] ∧
      report.events.filter (·.label == "RECORD") = [.codeRecorded 0, .codeRecorded 3] ∧
      report.events.filter Event.isOpening =
        [.partsIgnored "show *" ["*"], .commandOpened "show *", .commandStarted ["show"],
          .commandOpened "add x", .commandStarted ["add", "x"],
          .commandOpened "check", .commandStarted ["check"]] ∧
      report.events.getLast? = some (.launchRefused "check" .notFound) := by
  intro report
  have hmirrors := run_trace_mirrors_report { continueOnError := true } thirdRefused []
    "show *\nadd x\ncheck" {}
  have hung : report.ending ≠ .hung := by
    apply hmirrors.1
    intro calls
    unfold thirdRefused
    split
    · exact nofun
    · exact nofun
  have hending : report.ending = .halted (.launchFailed "check" "git-metrics" .notFound) := by
    decide +kernel
  have h := hmirrors.2 hung
  refine ⟨hung, ?_, ?_, ?_, (h.halted _ hending).1⟩
  · exact h.warned.trans (by decide +kernel)
  · exact h.recorded.trans (by decide +kernel)
  · exact h.opened.trans (by decide +kernel)

end Run
end MetricsScript
