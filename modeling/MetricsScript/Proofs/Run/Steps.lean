import MetricsScript.Run.Report

/-!
# The steps of a run

What one command does to a run, told by the answer that its invocation gets.  A run goes on
behind a command exactly if the answer does not stop it, and then the rest of the plan is
walked with one more invocation in the history.
-/

namespace MetricsScript
namespace Run

/-- The invocation that a command makes. -/
def Configuration.call (config : Configuration) (command : String) : Tool.Invocation :=
  config.invocation (Command.arguments command)

/-- The answers after which no further command is started. -/
def Configuration.Stops (config : Configuration) : Tool.Response → Prop
  | .exited output => output.code ≠ 0 ∧ config.continueOnError = false
  | .failed _ => True
  | .hung => True

instance (config : Configuration) : DecidablePred config.Stops
  | .exited output =>
      inferInstanceAs (Decidable (output.code ≠ 0 ∧ config.continueOnError = false))
  | .failed _ => inferInstanceAs (Decidable True)
  | .hung => inferInstanceAs (Decidable True)

variable
  {config : Configuration} {runner : Tool.Runner} {history : List Tool.Invocation}
  {command : String} {rest : List String}

/-- A command makes its one invocation, whatever becomes of it. -/
@[simp]
theorem step_calls :
    (step config runner history command).calls = [config.call command] := by
  simp only [step, Configuration.call]
  split
  · rfl
  · rfl
  · split
    · rfl
    · split <;> rfl

/-- An answer that does not stop the run leaves one record, and the run goes on. -/
theorem step_of_not_stops
    (h : ¬config.Stops (runner (history ++ [config.call command]))) :
    ∃ output, runner (history ++ [config.call command]) = .exited output ∧
      (step config runner history command).records = [recordOf command output] ∧
      (step config runner history command).ending = .completed := by
  cases hanswer : runner (history ++ [config.call command]) with
  | hung => simp [hanswer, Configuration.Stops] at h
  | failed cause => simp [hanswer, Configuration.Stops] at h
  | exited output =>
      refine ⟨output, rfl, ?_⟩
      rw [hanswer] at h
      simp only [step]
      rw [Configuration.call] at hanswer
      rw [hanswer]
      by_cases hcode : output.code = 0
      · simp [hcode]
      · have hcontinue : config.continueOnError = true := by
          simpa [Configuration.Stops, hcode] using h
        simp [hcode, hcontinue]

/-- A program that ends without success leaves its record when it stops the run. -/
theorem step_of_stops_exited
    {output : Tool.Output}
    (hanswer : runner (history ++ [config.call command]) = .exited output)
    (h : config.Stops (.exited output)) :
    (step config runner history command).records = [recordOf command output] ∧
      (step config runner history command).ending =
        .halted (.commandFailed command output.code) := by
  obtain ⟨hcode, hcontinue⟩ := h
  rw [Configuration.call] at hanswer
  simp [step, hanswer, hcode, hcontinue]

/-- A program that cannot be launched leaves no record. -/
theorem step_of_failed
    {cause : SystemError}
    (hanswer : runner (history ++ [config.call command]) = .failed cause) :
    (step config runner history command).records = [] ∧
      (step config runner history command).ending =
        .halted (.launchFailed command config.program cause) := by
  rw [Configuration.call] at hanswer
  simp [step, hanswer]

/-- A program that never ends leaves nothing. -/
theorem step_of_hung
    (hanswer : runner (history ++ [config.call command]) = .hung) :
    (step config runner history command).records = [] ∧
      (step config runner history command).ending = .hung := by
  rw [Configuration.call] at hanswer
  simp [step, hanswer]

/-- An answer that stops the run is the end of it. -/
theorem step_ending_ne_completed
    (h : config.Stops (runner (history ++ [config.call command]))) :
    (step config runner history command).ending ≠ .completed := by
  cases hanswer : runner (history ++ [config.call command]) with
  | hung => simp [(step_of_hung hanswer).2]
  | failed cause => simp [(step_of_failed hanswer).2]
  | exited output =>
      rw [hanswer] at h
      simp [(step_of_stops_exited hanswer h).2]

/-- Behind a command that stops the run nothing is started. -/
theorem walk_cons_of_stops
    (h : config.Stops (runner (history ++ [config.call command]))) :
    walk config runner history (command :: rest) = step config runner history command := by
  have hending := step_ending_ne_completed h
  simp only [walk]

/-- Behind a command that does not stop the run the rest of the plan is walked. -/
theorem walk_cons_of_not_stops
    (h : ¬config.Stops (runner (history ++ [config.call command]))) :
    walk config runner history (command :: rest) =
      (step config runner history command).append
        (walk config runner (history ++ [config.call command]) rest) := by
  obtain ⟨output, -, -, hending⟩ := step_of_not_stops h
  simp only [walk, hending, step_calls]

/-- A run makes the invocations of its plan from the first one on, and at most once each. -/
theorem walk_calls_prefix {commands : List String} :
    (walk config runner history commands).calls <+: commands.map config.call := by
  induction commands generalizing history with
  | nil => exact List.prefix_rfl
  | cons command rest ih =>
      rw [List.map_cons]
      by_cases hstops : config.Stops (runner (history ++ [config.call command]))
      · rw [walk_cons_of_stops hstops, step_calls]
        exact List.cons_prefix_cons.mpr ⟨rfl, List.nil_prefix⟩
      · rw [walk_cons_of_not_stops hstops, Report.append, step_calls]
        exact List.cons_prefix_cons.mpr ⟨rfl, ih⟩

/-- A run that completes leaves a record for every command. -/
theorem walk_records_length
    {commands : List String}
    (h : (walk config runner history commands).ending = .completed) :
    (walk config runner history commands).records.length = commands.length := by
  induction commands generalizing history with
  | nil => rfl
  | cons command rest ih =>
      by_cases hstops : config.Stops (runner (history ++ [config.call command]))
      · rw [walk_cons_of_stops hstops] at h
        exact absurd h (step_ending_ne_completed hstops)
      · obtain ⟨output, -, hrecord, -⟩ := step_of_not_stops hstops
        rw [walk_cons_of_not_stops hstops] at h ⊢
        have hrest := ih h
        simp [Report.append, hrecord, hrest]

end Run
end MetricsScript
