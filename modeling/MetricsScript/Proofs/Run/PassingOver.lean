import MetricsScript.Proofs.Run.Consecutive

/-!
# Runs that pass over failures

The same plan is walked twice: strictly, so that the first failure halts the run, and leniently,
so that failures are passed over.  As long as no command fails both runs do the same, whatever
else may stop them.  At the first failure they part: the strict run ends with the record of the
failure, and the lenient one goes on behind that record.
-/

namespace MetricsScript
namespace Run

/-- The configuration under which a failure halts the run. -/
def Configuration.strict (config : Configuration) : Configuration :=
  { config with continueOnError := false }

/-- The configuration under which failures are passed over. -/
def Configuration.lenient (config : Configuration) : Configuration :=
  { config with continueOnError := true }

/-- The failure of a command halts the run. -/
def Ending.IsFailure (ending : Ending) : Prop :=
  ∃ command code, ending = .halted (.commandFailed command code)

/-- The strict run of the commands ends with the failure of the command at index `k`, and the
lenient run goes on behind it. -/
structure PartsAt
    (commands : List String) (k : Nat) (strict lenient : Report) : Prop where
  halted : ∃ command code, commands[k]? = some command ∧
    strict.ending = .halted (.commandFailed command code)
  calls : strict.calls <+: lenient.calls
  records : strict.records <+: lenient.records
  length : strict.records.length = k + 1
  succeeded : ∀ i < k, ∀ record ∈ strict.records[i]?, record.code = 0
  failed : ∀ record ∈ strict.records[k]?, record.code ≠ 0

variable
  {config : Configuration} {runner : Tool.Runner} {history : List Tool.Invocation}
  {command : String} {rest : List String}

@[simp]
theorem Configuration.call_strict (config : Configuration) (command : String) :
    config.strict.call command = config.call command := rfl

@[simp]
theorem Configuration.call_lenient (config : Configuration) (command : String) :
    config.lenient.call command = config.call command := rfl

/-! ## One command -/

theorem step_strict_eq_lenient
    (h : ∀ output, runner (history ++ [config.call command]) = .exited output →
      output.code = 0) :
    step config.strict runner history command = step config.lenient runner history command ∧
      ¬(step config.strict runner history command).ending.IsFailure := by
  have hstrict : config.strict.invocation (Command.arguments command) = config.call command := rfl
  have hlenient : config.lenient.invocation (Command.arguments command) = config.call command :=
    rfl
  simp only [step, hstrict, hlenient]
  cases hanswer : runner (history ++ [config.call command]) with
  | hung => exact ⟨rfl, by simp [Ending.IsFailure]⟩
  | failed cause => exact ⟨rfl, by simp [Ending.IsFailure]⟩
  | exited output =>
      have hcode := h output hanswer
      simp [hcode, Ending.IsFailure]

theorem stops_strict_of_failure
    {output : Tool.Output} (hcode : output.code ≠ 0) : config.strict.Stops (.exited output) :=
  ⟨hcode, rfl⟩

theorem not_stops_lenient (output : Tool.Output) : ¬config.lenient.Stops (.exited output) := by
  rintro ⟨-, hcontinue⟩
  cases hcontinue

/-- The runs part at a first command that fails. -/
theorem partsAt_zero
    {output : Tool.Output}
    (hanswer : runner (history ++ [config.call command]) = .exited output)
    (hcode : output.code ≠ 0) :
    PartsAt (command :: rest) 0
      (walk config.strict runner history (command :: rest))
      (walk config.lenient runner history (command :: rest)) := by
  have hstops : config.strict.Stops (runner (history ++ [config.strict.call command])) := by
    rw [Configuration.call_strict, hanswer]
    exact stops_strict_of_failure hcode
  have hgoes : ¬config.lenient.Stops (runner (history ++ [config.lenient.call command])) := by
    rw [Configuration.call_lenient, hanswer]
    exact not_stops_lenient output
  have hstrict : runner (history ++ [config.strict.call command]) = .exited output := by
    rwa [Configuration.call_strict]
  obtain ⟨hrecords, hending⟩ := step_of_stops_exited hstrict (stops_strict_of_failure hcode)
  obtain ⟨output', hanswer', hrecords', -⟩ := step_of_not_stops hgoes
  obtain rfl : output = output' := by
    rw [Configuration.call_lenient, hanswer] at hanswer'
    exact Tool.Response.exited.inj hanswer'
  rw [walk_cons_of_stops hstops, walk_cons_of_not_stops hgoes]
  constructor
  case halted => exact ⟨command, output.code, rfl, hending⟩
  case calls =>
    rw [Report.append, step_calls, step_calls]
    exact List.prefix_append _ _
  case records =>
    rw [Report.append, hrecords, hrecords']
    exact List.prefix_append _ _
  case length => rw [hrecords, List.length_singleton]
  case succeeded =>
    intro i hi
    exact absurd hi (Nat.not_lt_zero i)
  case failed =>
    intro record hrecord
    rw [hrecords] at hrecord
    obtain rfl := Option.some.inj hrecord
    exact hcode

/-- A command that succeeds in both runs moves the place where they part one index back. -/
theorem PartsAt.cons
    {k : Nat} {first strict lenient : Report} {record : Record}
    (hrecords : first.records = [record]) (hcode : record.code = 0)
    (h : PartsAt rest k strict lenient) :
    PartsAt (command :: rest) (k + 1) (first.append strict) (first.append lenient) := by
  constructor
  case halted =>
    obtain ⟨c, code, hc, hending⟩ := h.halted
    exact ⟨c, code, hc, hending⟩
  case calls => exact (List.prefix_append_right_inj _).mpr h.calls
  case records => exact (List.prefix_append_right_inj _).mpr h.records
  case length => simp [Report.append, hrecords, h.length]
  case succeeded =>
    intro i hi r hr
    simp only [Report.append, hrecords, List.singleton_append] at hr
    cases i with
    | zero =>
        obtain rfl := Option.some.inj hr
        exact hcode
    | succ i => exact h.succeeded i (Nat.lt_of_succ_lt_succ hi) r hr
  case failed =>
    intro r hr
    simp only [Report.append, hrecords, List.singleton_append] at hr
    exact h.failed r hr

/-! ## The whole plan -/

/-- Both runs are the same if no failure halts the strict one, and else they part at some
command. -/
theorem walk_strict_or_parts
    (config : Configuration) (runner : Tool.Runner) (history : List Tool.Invocation)
    (commands : List String) :
    (walk config.strict runner history commands = walk config.lenient runner history commands ∧
        ¬(walk config.strict runner history commands).ending.IsFailure) ∨
      ∃ k, PartsAt commands k (walk config.strict runner history commands)
        (walk config.lenient runner history commands) := by
  induction commands generalizing history with
  | nil =>
      left
      exact ⟨rfl, by simp [walk, Ending.IsFailure]⟩
  | cons command rest ih =>
      by_cases hfails : ∃ output,
          runner (history ++ [config.call command]) = .exited output ∧ output.code ≠ 0
      · obtain ⟨output, hanswer, hcode⟩ := hfails
        right
        exact ⟨0, partsAt_zero hanswer hcode⟩
      · have hzero : ∀ output, runner (history ++ [config.call command]) = .exited output →
            output.code = 0 := by
          intro output hanswer
          by_contra hcode
          exact hfails ⟨output, hanswer, hcode⟩
        obtain ⟨hstep, hnot⟩ := step_strict_eq_lenient hzero
        by_cases hstops : config.strict.Stops (runner (history ++ [config.strict.call command]))
        · left
          have hending := step_ending_ne_completed hstops
          rw [walk_cons, walk_cons, Report.andThen_of_not_completed hending, ← hstep,
            Report.andThen_of_not_completed hending]
          exact ⟨rfl, hnot⟩
        · obtain ⟨output, hanswer, hrecords, hending⟩ := step_of_not_stops hstops
          have hcode : (recordOf command output).code = 0 := hzero output hanswer
          rw [walk_cons, walk_cons, Report.andThen_of_completed hending, ← hstep,
            Report.andThen_of_completed hending]
          rcases ih (history ++ (step config.strict runner history command).calls) with
            ⟨hrest, hfailure⟩ | ⟨k, hparts⟩
          · left
            exact ⟨by rw [hrest], hfailure⟩
          · right
            exact ⟨k + 1, hparts.cons hrecords hcode⟩

/-- Passing over failures only ever extends a run.  What the strict run did is the beginning of
what the lenient one does.  Unless a failure halts it, both come to the same; and a failure that
halts it is the last of its records and the first failure in either run. -/
theorem run_lenient_extends_strict
    (config : Configuration) (runner : Tool.Runner) (history : List Tool.Invocation)
    (script : String) (flags : Flags) :
    let strict := run config.strict runner history script flags
    let lenient := run config.lenient runner history script flags
    strict.calls <+: lenient.calls ∧ strict.records <+: lenient.records ∧
      (¬strict.ending.IsFailure → strict.Agrees lenient) ∧
      ∀ command code, strict.ending = .halted (.commandFailed command code) →
        ∃ k record, (plan script flags)[k]? = some command ∧
          strict.records.length = k + 1 ∧
          strict.records[k]? = some record ∧ lenient.records[k]? = some record ∧
          record.code ≠ 0 ∧
          ∀ i < k, ∃ earlier, strict.records[i]? = some earlier ∧
            lenient.records[i]? = some earlier ∧ earlier.code = 0 := by
  intro strict lenient
  rcases walk_strict_or_parts config runner history (plan script flags) with
    ⟨hsame, hnot⟩ | ⟨k, hparts⟩
  · have hagrees : strict.Agrees lenient := by
      have hrecords := congrArg Report.records hsame
      have hcalls := congrArg Report.calls hsame
      have hending := congrArg Report.ending hsame
      exact ⟨hrecords, hcalls, hending⟩
    refine ⟨?_, ?_, ?_, ?_⟩
    · exact hagrees.calls ▸ List.prefix_rfl
    · exact hagrees.records ▸ List.prefix_rfl
    · intro _
      exact hagrees
    · intro command code hfailure
      exact absurd ⟨command, code, hfailure⟩ hnot
  · have hlength : strict.records.length = k + 1 := hparts.length
    have hrecords : strict.records <+: lenient.records := hparts.records
    have hshared : ∀ i < k + 1, ∃ record, strict.records[i]? = some record ∧
        lenient.records[i]? = some record := by
      intro i hi
      have hi : i < strict.records.length := by omega
      refine ⟨strict.records[i], List.getElem?_eq_getElem hi, ?_⟩
      exact (List.prefix_iff_getElem?.mp hrecords) i hi
    obtain ⟨command, code, hcommand, hending⟩ := hparts.halted
    have hending : strict.ending = .halted (.commandFailed command code) := hending
    refine ⟨hparts.calls, hrecords, ?_, ?_⟩
    · intro hnot
      exact absurd ⟨command, code, hending⟩ hnot
    · intro command' code' hending'
      rw [hending] at hending'
      cases hending'
      obtain ⟨record, hstrict, hlenient⟩ := hshared k (Nat.lt_succ_self k)
      refine ⟨k, record, hcommand, hlength, hstrict, hlenient, ?_, ?_⟩
      · exact hparts.failed record hstrict
      · intro i hi
        obtain ⟨earlier, hearlier, hearlier'⟩ := hshared i (Nat.lt_succ_of_lt hi)
        exact ⟨earlier, hearlier, hearlier', hparts.succeeded i hi earlier hearlier⟩

/-- Passing over the failure of the second command, the run goes on to the third one; the strict
run stops behind the record of the failure. -/
theorem run_lenient_extends_strict_at_second :
    let strict := run (Configuration.strict {}) secondFails [] "show\nadd x\ncheck" {}
    let lenient := run (Configuration.lenient {}) secondFails [] "show\nadd x\ncheck" {}
    strict.records <+: lenient.records ∧ lenient.records.length = 3 ∧
      strict.records.length = 2 ∧ lenient.records[1]? = some ⟨"add x", 3, "", "no"⟩ := by
  intro strict lenient
  have hending : strict.ending = .halted (.commandFailed "add x" 3) := by decide +kernel
  obtain ⟨-, hrecords, -, hfailed⟩ :=
    run_lenient_extends_strict {} secondFails [] "show\nadd x\ncheck" {}
  obtain ⟨k, record, -, hlength, hstrict, hlenient, -⟩ := hfailed "add x" 3 hending
  have htwo : strict.records.length = 2 := by decide +kernel
  obtain rfl : k = 1 := Nat.succ.inj (hlength.symm.trans htwo)
  have hrecord : strict.records[1]? = some ⟨"add x", 3, "", "no"⟩ := by decide +kernel
  refine ⟨hrecords, by decide +kernel, htwo, ?_⟩
  rw [hlenient, ← hstrict, hrecord]

end Run
end MetricsScript
