import MetricsScript.Proofs.Input.Validation
import MetricsScript.Proofs.Run.Steps
import MetricsScript.Proofs.Script.CommandLines

/-!
# Scripts that are not blank

The check of the inputs trims the script as a whole, and the plan of a run trims it piece by
piece.  A newline is a blank character, so both find nothing in the same scripts: a script that is
refused has no command to run, and one that is accepted has at least one.
-/

namespace MetricsScript

namespace Run

variable {script : String} {flags : Flags}

theorem plan_of_commandLines_eq_nil (h : commandLines script = []) :
    plan script flags = flags.opening ++ flags.closing := by
  rw [plan, h, List.append_nil]

/-- A script without commands of its own leaves a run the pull and the push at most. -/
theorem run_calls_prefix_of_commandLines_eq_nil
    (h : commandLines script = []) (config : Configuration) (runner : Tool.Runner)
    (history : List Tool.Invocation) :
    (run config runner history script flags).calls <+:
      (flags.opening ++ flags.closing).map config.call := by
  rw [← plan_of_commandLines_eq_nil h]
  exact walk_calls_prefix

end Run

namespace Input

variable {given : Given} {stdin : List UInt8} {files : Host.Files} {script : String}

theorem requiredScript_of_source (h : scriptSource given stdin files = .ok script) :
    requiredScript given stdin files =
      if commandLines script = [] then .error (.required "script") else .ok script := by
  simp only [commandLines_eq_nil_iff]
  rw [requiredScript, h]
  rfl

/-- The check of the inputs and the plan of a run agree on which scripts are empty.  A script is
refused exactly if trimming leaves nothing of it, and exactly if it has no command lines; then no
run of it would make any call but that of the pull and of the push.  An accepted script has
commands of its own in every plan. -/
theorem script_refused_iff_no_command_lines
    (h : scriptSource given stdin files = .ok script) :
    (requiredScript given stdin files = .error (.required "script") ↔ Text.trim script = "") ∧
      (requiredScript given stdin files = .error (.required "script") ↔
        commandLines script = []) ∧
      (∀ accepted, requiredScript given stdin files = .ok accepted →
        accepted = script ∧ ∃ own, own ≠ [] ∧
          ∀ flags, Run.plan script flags = flags.opening ++ own ++ flags.closing) ∧
      ∀ error, requiredScript given stdin files = .error error →
        ∀ flags, Run.plan script flags = flags.opening ++ flags.closing ∧
          ∀ config runner history, (Run.run config runner history script flags).calls <+:
            (flags.opening ++ flags.closing).map config.call := by
  rw [requiredScript_of_source h, Text.trim_eq_empty_iff, ← commandLines_eq_nil_iff]
  by_cases hlines : commandLines script = []
  · rw [if_pos hlines]
    refine ⟨by simp [hlines], by simp [hlines], nofun, ?_⟩
    intro error _ flags
    refine ⟨Run.plan_of_commandLines_eq_nil hlines, ?_⟩
    intro config runner history
    exact Run.run_calls_prefix_of_commandLines_eq_nil hlines config runner history
  · rw [if_neg hlines]
    refine ⟨by simp [hlines], by simp [hlines], ?_, nofun⟩
    intro accepted haccepted
    obtain rfl : script = accepted := Except.ok.inj haccepted
    exact ⟨rfl, commandLines script, hlines, fun _ => rfl⟩

/-- Standard input of blank lines of many kinds is refused, and to sync it would come to no more
than the pull and the push. -/
theorem script_refused_of_blank_lines :
    let given : Given := { script := some "-" }
    let stdin := Text.Utf8.encode "\r\n\u0085 \n\u2003\x0b"
    let files : Host.Files := { nodes := [], working := [] }
    scriptSource given stdin files = .ok "\r\n\u0085 \n\u2003\x0b" ∧
      requiredScript given stdin files = .error (.required "script") ∧
      Run.plan "\r\n\u0085 \n\u2003\x0b" { sync := true } = ["pull", "push"] := by
  intro given stdin files
  have hsource : scriptSource given stdin files = .ok "\r\n\u0085 \n\u2003\x0b" :=
    ScriptIs.scriptSource_eq (.stdin rfl rfl rfl)
  obtain ⟨hrefused, -, -, hplan⟩ := script_refused_iff_no_command_lines hsource
  have hblank := hrefused.mpr (by decide +kernel)
  exact ⟨hsource, hblank, (hplan _ hblank { sync := true }).1⟩

end Input
end MetricsScript
