import MetricsScript.Proofs.Run.Steps

/-!
# The first stop of a run

A run makes the invocations of its plan in order, up to the first command whose answer stops
it, and none behind that command.  The answer at an index is the one that the runner gives
when the commands before it have all been run, so it may depend on everything that came
before.  Which records are left and how the run ends is told by that first answer alone.
-/

namespace MetricsScript
namespace Run

/-- The answer to the command at an index of a plan, all commands before it having been
run. -/
def answerAt
    (config : Configuration) (runner : Tool.Runner) (history : List Tool.Invocation)
    (commands : List String) (i : Nat) : Tool.Response :=
  runner (history ++ (commands.take (i + 1)).map config.call)

/-- `records` tells the outputs of the first `n` commands: in order, and each under the text
that its command has in the plan. -/
def Recorded
    (commands : List String) (answer : Nat → Tool.Response) (n : Nat)
    (records : List Record) : Prop :=
  records.length = n ∧
    ∀ i < n, ∃ command output, commands[i]? = some command ∧
      answer i = .exited output ∧
      records[i]? = some ⟨command, output.code, output.stdout, output.stderr⟩

/-- The command at index `k` is the first one whose answer stops the run. -/
structure IsFirstStop
    (config : Configuration) (answer : Nat → Tool.Response) (k : Nat) : Prop where
  stops : config.Stops (answer k)
  least : ∀ i < k, ¬config.Stops (answer i)

variable
  {config : Configuration} {runner : Tool.Runner} {history : List Tool.Invocation}
  {commands : List String} {command : String} {rest : List String}

@[simp]
theorem answerAt_cons_zero :
    answerAt config runner history (command :: rest) 0 =
      runner (history ++ [config.call command]) := by
  simp [answerAt]

/-- The answers behind the first command are those of the rest of the plan, with one more
invocation in the history. -/
@[simp]
theorem answerAt_cons_succ (i : Nat) :
    answerAt config runner history (command :: rest) (i + 1) =
      answerAt config runner (history ++ [config.call command]) rest i := by
  simp [answerAt]

theorem recorded_zero (commands : List String) (answer : Nat → Tool.Response) :
    Recorded commands answer 0 [] :=
  ⟨rfl, fun _ hi => absurd hi (Nat.not_lt_zero _)⟩

theorem Recorded.cons
    {answer : Nat → Tool.Response} {output : Tool.Output} {n : Nat} {records : List Record}
    (hfirst : answer 0 = .exited output)
    (h : Recorded rest (fun i => answer (i + 1)) n records) :
    Recorded (command :: rest) answer (n + 1) (recordOf command output :: records) := by
  obtain ⟨hlength, hrecords⟩ := h
  refine ⟨by simp [hlength], ?_⟩
  intro i hi
  cases i with
  | zero => exact ⟨command, output, rfl, hfirst, rfl⟩
  | succ i =>
      obtain ⟨c, o, hc, ho, hr⟩ := hrecords i (Nat.lt_of_succ_lt_succ hi)
      exact ⟨c, o, by simpa using hc, ho, by simpa using hr⟩

/-- Without the first command, the first stop comes one index earlier. -/
theorem IsFirstStop.tail
    {answer : Nat → Tool.Response} {k : Nat}
    (h : IsFirstStop config answer (k + 1)) :
    IsFirstStop config (fun i => answer (i + 1)) k :=
  ⟨h.stops, fun i hi => h.least (i + 1) (Nat.succ_lt_succ hi)⟩

/-- A plan that nothing stops is run to its end. -/
theorem walk_of_forall_not_stops
    (h : ∀ i < commands.length,
      ¬config.Stops (answerAt config runner history commands i)) :
    (walk config runner history commands).calls = commands.map config.call ∧
      Recorded commands (answerAt config runner history commands) commands.length
        (walk config runner history commands).records ∧
      (walk config runner history commands).ending = .completed := by
  induction commands generalizing history with
  | nil => exact ⟨rfl, recorded_zero _ _, rfl⟩
  | cons command rest ih =>
      have hfirst := h 0 (Nat.succ_pos _)
      rw [answerAt_cons_zero] at hfirst
      have hrest : ∀ i < rest.length, ¬config.Stops
          (answerAt config runner (history ++ [config.call command]) rest i) := by
        intro i hi
        have := h (i + 1) (Nat.succ_lt_succ hi)
        rwa [answerAt_cons_succ] at this
      obtain ⟨hcalls, hrecords, hending⟩ := ih hrest
      obtain ⟨output, hanswer, hrecord, -⟩ := step_of_not_stops hfirst
      rw [walk_cons_of_not_stops hfirst]
      refine ⟨?_, ?_, hending⟩
      · simp [Report.append, hcalls]
      · simp only [Report.append, hrecord, List.singleton_append, List.length_cons]
        exact Recorded.cons (by simpa using hanswer) (by simpa using hrecords)

/-- What is left when a run stops at the command at index `k`: a program that ended has left
its record, and one that was not launched or never ends has not. -/
structure StoppedAt
    (config : Configuration) (commands : List String) (answer : Nat → Tool.Response)
    (k : Nat) (report : Report) : Prop where
  calls : report.calls = (commands.take (k + 1)).map config.call
  exited : ∀ output, answer k = .exited output →
    Recorded commands answer (k + 1) report.records ∧
      ∃ command, commands[k]? = some command ∧
        report.ending = .halted (.commandFailed command output.code)
  failed : ∀ cause, answer k = .failed cause →
    Recorded commands answer k report.records ∧
      ∃ command, commands[k]? = some command ∧
        report.ending = .halted (.launchFailed command config.program cause)
  hung : answer k = .hung →
    Recorded commands answer k report.records ∧ report.ending = .hung

/-- A run that its first command stops. -/
theorem stoppedAt_zero
    (h : config.Stops (runner (history ++ [config.call command]))) :
    StoppedAt config (command :: rest) (answerAt config runner history (command :: rest)) 0
      (step config runner history command) where
  calls := by simp
  exited := by
    intro output hanswer
    have hfirst := hanswer
    rw [answerAt_cons_zero] at hanswer
    rw [hanswer] at h
    obtain ⟨hrecords, hending⟩ := step_of_stops_exited hanswer h
    rw [hrecords]
    exact ⟨Recorded.cons hfirst (recorded_zero _ _), command, rfl, hending⟩
  failed := by
    intro cause hanswer
    rw [answerAt_cons_zero] at hanswer
    obtain ⟨hrecords, hending⟩ := step_of_failed hanswer
    rw [hrecords]
    exact ⟨recorded_zero _ _, command, rfl, hending⟩
  hung := by
    intro hanswer
    rw [answerAt_cons_zero] at hanswer
    obtain ⟨hrecords, hending⟩ := step_of_hung hanswer
    rw [hrecords]
    exact ⟨recorded_zero _ _, hending⟩

/-- A command that does not stop the run moves a later stop one index back. -/
theorem StoppedAt.cons
    {answer : Nat → Tool.Response} {output : Tool.Output} {k : Nat}
    {first report : Report}
    (hanswer : answer 0 = .exited output)
    (hcalls : first.calls = [config.call command])
    (hrecords : first.records = [recordOf command output])
    (h : StoppedAt config rest (fun i => answer (i + 1)) k report) :
    StoppedAt config (command :: rest) answer (k + 1) (first.append report) where
  calls := by simp [Report.append, hcalls, h.calls]
  exited := by
    intro o ho
    obtain ⟨hr, c, hc, hending⟩ := h.exited o ho
    simp only [Report.append, hrecords, List.singleton_append]
    exact ⟨hr.cons hanswer, c, by simpa using hc, hending⟩
  failed := by
    intro cause hcause
    obtain ⟨hr, c, hc, hending⟩ := h.failed cause hcause
    simp only [Report.append, hrecords, List.singleton_append]
    exact ⟨hr.cons hanswer, c, by simpa using hc, hending⟩
  hung := by
    intro hhung
    obtain ⟨hr, hending⟩ := h.hung hhung
    simp only [Report.append, hrecords, List.singleton_append]
    exact ⟨hr.cons hanswer, hending⟩

/-- A run stops at the first command whose answer stops it. -/
theorem walk_stoppedAt
    {k : Nat} (hk : k < commands.length)
    (h : IsFirstStop config (answerAt config runner history commands) k) :
    StoppedAt config commands (answerAt config runner history commands) k
      (walk config runner history commands) := by
  induction commands generalizing history k with
  | nil => exact absurd hk (Nat.not_lt_zero _)
  | cons command rest ih =>
      cases k with
      | zero =>
          have hstops := h.stops
          rw [answerAt_cons_zero] at hstops
          rw [walk_cons_of_stops hstops]
          exact stoppedAt_zero hstops
      | succ k =>
          have hfirst := h.least 0 (Nat.succ_pos _)
          rw [answerAt_cons_zero] at hfirst
          have htail := h.tail
          simp only [answerAt_cons_succ] at htail
          obtain ⟨output, hanswer, hrecord, -⟩ := step_of_not_stops hfirst
          rw [walk_cons_of_not_stops hfirst]
          refine StoppedAt.cons ?_ step_calls hrecord ?_
          · simpa using hanswer
          · simpa using ih (Nat.lt_of_succ_lt_succ hk) htail

/-- The events around a run are no part of what it leaves behind. -/
theorem StoppedAt.framed
    {answer : Nat → Tool.Response} {k : Nat} {report : Report}
    (h : StoppedAt config commands answer k report) (n : Nat) :
    StoppedAt config commands answer k (report.framed config n) :=
  ⟨h.calls, h.exited, h.failed, h.hung⟩

/-- A completed run publishes its records. -/
theorem result?_of_completed {report : Report} (h : report.ending = .completed) :
    report.result? = some (.ok report.records) := by
  simp [Report.result?, h]

/-- A run that is stopped publishes no records. -/
theorem StoppedAt.result?_ne_ok
    {answer : Nat → Tool.Response} {k : Nat} {report : Report}
    (h : StoppedAt config commands answer k report) (records : List Record) :
    report.result? ≠ some (.ok records) := by
  cases hanswer : answer k with
  | exited output =>
      obtain ⟨-, command, -, hending⟩ := h.exited output hanswer
      simp [Report.result?, hending]
  | failed cause =>
      obtain ⟨-, command, -, hending⟩ := h.failed cause hanswer
      simp [Report.result?, hending]
  | hung => simp [Report.result?, (h.hung hanswer).2]

/-- A run makes the invocations of its plan, in order and once each, up to the first command
whose answer stops it.  A plan that nothing stops is run to its end and gives one record for
each command; a run that is stopped publishes nothing. -/
theorem run_follows_plan
    (config : Configuration) (runner : Tool.Runner) (history : List Tool.Invocation)
    (script : String) (flags : Flags) :
    let commands := plan script flags
    let answer := answerAt config runner history commands
    let report := run config runner history script flags
    ((∀ i < commands.length, ¬config.Stops (answer i)) →
      report.calls = commands.map config.call ∧
        Recorded commands answer commands.length report.records ∧
        report.ending = .completed ∧
        report.result? = some (.ok report.records)) ∧
    ∀ k < commands.length, IsFirstStop config answer k →
      StoppedAt config commands answer k report ∧
        ∀ records, report.result? ≠ some (.ok records) := by
  intro commands answer report
  constructor
  · intro h
    obtain ⟨hcalls, hrecords, hending⟩ := walk_of_forall_not_stops h
    exact ⟨hcalls, hrecords, hending, result?_of_completed hending⟩
  · intro k hk h
    have hstopped : StoppedAt config commands answer k report :=
      (walk_stoppedAt hk h).framed commands.length
    exact ⟨hstopped, hstopped.result?_ne_ok⟩

/-- A runner whose second program fails. -/
def secondFails : Tool.Runner := fun history =>
  .exited (if history.length = 2 then ⟨3, "", "no"⟩ else .silent)

/-- The second of three commands fails, and the third one is never started. -/
theorem run_halts_at_second :
    (run {} secondFails [] "pull -v\n add x\npush" {}).ending =
        .halted (.commandFailed "add x" 3) ∧
      (run {} secondFails [] "pull -v\n add x\npush" {}).calls =
        [{ program := "git-metrics"
           arguments := ["pull", "-v"]
           environment := [("GIT_BACKEND", "command"), ("VERBOSITY", "5")]
           echo := false },
          { program := "git-metrics"
            arguments := ["add", "x"]
            environment := [("GIT_BACKEND", "command"), ("VERBOSITY", "5")]
            echo := false }] := by
  have hplan : plan "pull -v\n add x\npush" {} = ["pull -v", "add x", "push"] := by
    decide +kernel
  have hfirst : IsFirstStop {} (answerAt {} secondFails [] ["pull -v", "add x", "push"]) 1 :=
    ⟨by decide +kernel, by decide +kernel⟩
  have h := (run_follows_plan {} secondFails [] "pull -v\n add x\npush" {}).2 1
  rw [hplan] at h
  obtain ⟨hstopped, -⟩ := h (by decide) hfirst
  obtain ⟨-, command, hcommand, hending⟩ := hstopped.exited ⟨3, "", "no"⟩ rfl
  obtain rfl : "add x" = command := Option.some.inj hcommand
  refine ⟨hending, ?_⟩
  rw [hstopped.calls]
  decide +kernel

end Run
end MetricsScript
