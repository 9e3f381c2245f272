import MetricsScript.Input.Inputs

/-!
# Checked inputs

Inputs are checked one after the other, and a run only has inputs if every check was passed.
The script comes first and must not be blank.
-/

namespace MetricsScript
namespace Input

/-- Of two steps that succeed together each one succeeds. -/
theorem exists_of_bind_eq_ok
    {ε α β : Type} {first : Except ε α} {next : α → Except ε β} {result : β}
    (h : (first >>= next) = .ok result) :
    ∃ value, first = .ok value ∧ next value = .ok result := by
  cases first with
  | error error => cases h
  | ok value => exact ⟨value, rfl, h⟩

/-- Of two steps the first one that fails gives its error. -/
theorem bind_eq_error_iff
    {ε α β : Type} {first : Except ε α} {next : α → Except ε β} {error : ε} :
    (first >>= next) = .error error ↔
      first = .error error ∨ ∃ value, first = .ok value ∧ next value = .error error := by
  cases first with
  | error cause => simp [bind, Except.bind]
  | ok value => simp [bind, Except.bind]

variable
  {given : Given} {stdin : List UInt8} {files : Host.Files} {script : String} {result : Inputs}

theorem requiredScript_eq_ok_iff :
    requiredScript given stdin files = .ok script ↔
      scriptSource given stdin files = .ok script ∧ Text.isAllBlank script = false := by
  unfold requiredScript
  cases hsource : scriptSource given stdin files with
  | error error => simp [bind, Except.bind]
  | ok source =>
      cases hblank : Text.isAllBlank source with
      | true =>
          simp only [bind, Except.bind, hblank, if_true, reduceCtorEq, Except.ok.injEq, false_iff,
            not_and, Bool.not_eq_false]
          rintro rfl
          exact hblank
      | false =>
          simp only [bind, Except.bind, hblank, Bool.false_eq_true, if_false, Except.ok.injEq,
            iff_self_and]
          rintro rfl
          exact hblank

/-- The script of checked inputs is the one that was required. -/
theorem requiredScript_of_inputs (h : inputs given stdin files = .ok result) :
    requiredScript given stdin files = .ok result.script := by
  obtain ⟨script, hscript, h⟩ := exists_of_bind_eq_ok h
  obtain ⟨pull, -, h⟩ := exists_of_bind_eq_ok h
  obtain ⟨push, -, h⟩ := exists_of_bind_eq_ok h
  obtain ⟨sync, -, h⟩ := exists_of_bind_eq_ok h
  obtain ⟨continueOnError, -, h⟩ := exists_of_bind_eq_ok h
  cases h
  exact hscript

end Input
end MetricsScript
