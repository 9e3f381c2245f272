import MetricsScript.Proofs.Run.FirstStop
import MetricsScript.Proofs.Script.CommandLines

/-!
# Runs one after another

A plan that is cut in two is walked by walking its first part and then, if that part completed,
its second part with the invocations of the first one in the history.  A script cut at a newline
gives such a cut of its plan, in which the pull belongs to the first part and the push to the
second.  So a script may be run in parts, and nothing but the history passes between them.
-/

namespace MetricsScript
namespace Run

/-- The report of a run and of what is started behind it, which is started only if the run
completed.  It is given the invocations of the run. -/
def Report.andThen (first : Report) (next : List Tool.Invocation → Report) : Report :=
  match first.ending with
  | .completed => first.append (next first.calls)
  | _ => first

/-- Two reports that differ in their traces at most. -/
structure Report.Agrees (report other : Report) : Prop where
  records : report.records = other.records
  calls : report.calls = other.calls
  ending : report.ending = other.ending

theorem Report.Agrees.symm {report other : Report} (h : report.Agrees other) :
    other.Agrees report :=
  ⟨h.records.symm, h.calls.symm, h.ending.symm⟩

theorem Report.Agrees.trans
    {report other third : Report} (h : report.Agrees other) (h' : other.Agrees third) :
    report.Agrees third :=
  ⟨h.records.trans h'.records, h.calls.trans h'.calls, h.ending.trans h'.ending⟩

theorem Report.Agrees.append
    {first first' next next' : Report} (h : first.Agrees first') (h' : next.Agrees next') :
    (first.append next).Agrees (first'.append next') where
  records := congrArg₂ (· ++ ·) h.records h'.records
  calls := congrArg₂ (· ++ ·) h.calls h'.calls
  ending := h'.ending

/-- The events around a run are all that is added to what was walked. -/
theorem Report.framed_agrees (report : Report) (config : Configuration) (commands : Nat) :
    (report.framed config commands).Agrees report :=
  ⟨rfl, rfl, rfl⟩

variable
  {config : Configuration} {runner : Tool.Runner} {history : List Tool.Invocation}

/-! ## Parts of a run -/

theorem Report.andThen_of_completed
    {first : Report} (h : first.ending = .completed) (next : List Tool.Invocation → Report) :
    first.andThen next = first.append (next first.calls) := by
  simp only [andThen, h]

theorem Report.andThen_of_not_completed
    {first : Report} (h : first.ending ≠ .completed) (next : List Tool.Invocation → Report) :
    first.andThen next = first := by
  cases hending : first.ending with
  | completed => exact absurd hending h
  | halted failure => simp only [andThen, hending]
  | hung => simp only [andThen, hending]

theorem Report.append_assoc (first second third : Report) :
    (first.append second).append third = first.append (second.append third) := by
  simp only [append, List.append_assoc]

theorem Report.andThen_assoc (first : Report) (next last : List Tool.Invocation → Report) :
    (first.andThen next).andThen last =
      first.andThen fun calls => (next calls).andThen fun more => last (calls ++ more) := by
  by_cases hfirst : first.ending = .completed
  · rw [andThen_of_completed hfirst, andThen_of_completed hfirst]
    by_cases hnext : (next first.calls).ending = .completed
    · have hboth : (first.append (next first.calls)).ending = .completed := hnext
      rw [andThen_of_completed hboth, andThen_of_completed hnext, append_assoc]
      rfl
    · have hboth : (first.append (next first.calls)).ending ≠ .completed := hnext
      rw [andThen_of_not_completed hboth, andThen_of_not_completed hnext]
  · rw [andThen_of_not_completed hfirst, andThen_of_not_completed hfirst,
      andThen_of_not_completed hfirst]

theorem walk_cons (command : String) (rest : List String) :
    walk config runner history (command :: rest) =
      (step config runner history command).andThen fun calls =>
        walk config runner (history ++ calls) rest := rfl

theorem walk_append (front back : List String) :
    walk config runner history (front ++ back) =
      (walk config runner history front).andThen fun calls =>
        walk config runner (history ++ calls) back := by
  induction front generalizing history with
  | nil =>
      have hempty : (walk config runner history []).ending = .completed := rfl
      rw [Report.andThen_of_completed hempty, List.nil_append]
      simp [walk, Report.append]
  | cons command front ih =>
      rw [List.cons_append, walk_cons, walk_cons, Report.andThen_assoc]
      congr 1
      funext calls
      rw [ih]
      simp only [List.append_assoc]

/-! ## Plans of scripts in parts -/

theorem plan_append_newline (first next : String) (pull push : Bool) :
    plan (first ++ "\n" ++ next) { pull, push } =
      plan first { pull } ++ plan next { push } := by
  have hopening : ({ push } : Flags).opening = [] := rfl
  have hclosing : ({ pull } : Flags).closing = [] := rfl
  simp only [plan, commandLines_append_newline, hopening, hclosing, List.append_nil,
    List.nil_append, List.append_assoc]
  rfl

theorem plan_of_sync (script : String) {flags : Flags} (h : flags.sync = true) :
    plan script flags = plan script { pull := true, push := true } := by
  have hpull : flags.wantsPull = true := by simp [Flags.wantsPull, h]
  have hpush : flags.wantsPush = true := by simp [Flags.wantsPush, h]
  simp only [plan, Flags.opening, Flags.closing, hpull, hpush]
  rfl

/-- Running two scripts with a newline between them is running the first one and then, if it
completed, the second one behind it.  The pull is one of the first run and the push one of the
second, so behind a first run that did not complete there is no push either.  To sync is to
pull and to push. -/
theorem run_append_newline
    (config : Configuration) (runner : Tool.Runner) (history : List Tool.Invocation)
    (first next : String) (pull push : Bool) :
    let whole := run config runner history (first ++ "\n" ++ next) { pull, push }
    let front := run config runner history first { pull }
    let back := run config runner (history ++ front.calls) next { push }
    (front.ending = .completed → whole.Agrees (front.append back)) ∧
      (front.ending ≠ .completed → whole.Agrees front) ∧
      ∀ flags : Flags, flags.sync = true →
        run config runner history (first ++ "\n" ++ next) flags =
          run config runner history (first ++ "\n" ++ next) { pull := true, push := true } := by
  intro whole front back
  have hwhole : whole.Agrees (walk config runner history
      (plan first { pull } ++ plan next { push })) := by
    rw [← plan_append_newline]
    exact Report.framed_agrees _ config _
  have hfrontwalk : front.Agrees (walk config runner history (plan first { pull })) :=
    Report.framed_agrees _ config _
  have hbackwalk : back.Agrees (walk config runner (history ++ front.calls)
      (plan next { push })) :=
    Report.framed_agrees _ config _
  rw [walk_append] at hwhole
  refine ⟨?_, ?_, ?_⟩
  · intro hfront
    rw [hfrontwalk.ending] at hfront
    rw [Report.andThen_of_completed hfront, ← hfrontwalk.calls] at hwhole
    exact hwhole.trans (hfrontwalk.append hbackwalk).symm
  · intro hfront
    rw [hfrontwalk.ending] at hfront
    rw [Report.andThen_of_not_completed hfront] at hwhole
    exact hwhole.trans hfrontwalk.symm
  · intro flags hsync
    simp only [run, plan_of_sync _ hsync]

/-- A second script that halts halts both, and its push is not made; behind a first script that
halts the second one is not started.  With a sync the second invocation is that of the first
script, as it is with a pull. -/
theorem run_append_newline_halted :
    let whole := run {} secondFails [] ("show" ++ "\n" ++ "add x\ncheck") { push := true }
    let early := run {} secondFails [] ("show\nadd x" ++ "\n" ++ "check") { push := true }
    let synced := run {} secondFails [] ("show" ++ "\n" ++ "check") { sync := true }
    whole.calls = ["show", "add x"].map (Configuration.call {}) ∧
      whole.ending = .halted (.commandFailed "add x" 3) ∧
      early.calls = ["show", "add x"].map (Configuration.call {}) ∧
      synced.ending = .halted (.commandFailed "show" 3) := by
  intro whole early synced
  have hwhole := (run_append_newline {} secondFails [] "show" "add x\ncheck" false true).1
    (by decide +kernel)
  have hearly := (run_append_newline {} secondFails [] "show\nadd x" "check" false true).2.1
    (by decide +kernel)
  have hsynced : synced = _ :=
    (run_append_newline {} secondFails [] "show" "check" false false).2.2 { sync := true } rfl
  refine ⟨?_, ?_, ?_, ?_⟩
  · rw [hwhole.calls]
    decide +kernel
  · rw [hwhole.ending]
    decide +kernel
  · rw [hearly.calls]
    decide +kernel
  · rw [hsynced]
    decide +kernel

end Run
end MetricsScript
