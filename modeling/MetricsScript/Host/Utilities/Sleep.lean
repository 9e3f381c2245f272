import MetricsScript.Host.Utilities.Fraction
import MetricsScript.Host.Utilities.Options
import MetricsScript.Host.Utilities.Work

/-!
# Sleeping

A program that does nothing for a while.  Time is counted in microseconds, and several
intervals add up.

This only serves to run tools on a machine; no theorem is about it.
-/

namespace MetricsScript
namespace Host

/-- One second in microseconds. -/
def oneSecond : Nat := 1000000

/-- The length of the unit that a letter behind a number stands for. -/
def unit? : List Char → Option Nat
  | [] | ['s'] => some oneSecond
  | ['m'] => some (60 * oneSecond)
  | ['h'] => some (3600 * oneSecond)
  | ['d'] => some (86400 * oneSecond)
  | _ => none

/-- The length of an interval, which is a number that is not negative, perhaps with a fraction
and a unit. -/
def interval? (text : String) : Option Nat :=
  let m := readMeasured text.toList
  if !m.found || (m.negative && m.value.numerator != 0) then none
  else (unit? m.rest).map fun unit => m.value.numerator * unit / m.value.denominator

/-- The program takes no options. -/
def sleepOptions : OptionTable where
  flags := []
  valued := []
  long := []
  mixed := true

/-- What the program does, and for how long.  It complains of every wrong interval. -/
def sleep (arguments : List String) : Work × Nat :=
  match arguments, sleepOptions.read arguments with
  | [], _ => (.misused "sleep" "missing operand", 0)
  | _, .error reason => (.misused "sleep" reason, 0)
  | _, .ok (_, intervals) =>
      let wrong := intervals.filter fun interval => (interval? interval).isNone
      if wrong.isEmpty then (⟨[], [], 0⟩, (intervals.filterMap interval?).foldl (· + ·) 0)
      else
        let complaints := wrong.map fun interval => "invalid time interval '" ++ interval ++ "'"
        (.misused "sleep" ("\nsleep: ".intercalate complaints), 0)

end Host
end MetricsScript
