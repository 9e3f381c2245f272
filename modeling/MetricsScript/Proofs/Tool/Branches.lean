import Mathlib.Data.List.Basic
import Mathlib.Logic.Function.Basic
import MetricsScript.Proofs.Tool.Draining
import MetricsScript.Tool.Collector

/-!
# The branches of a collection

The collection of a program's output has three branches: each of the two pipes is drained, and
the exit is awaited.  A drain reads when it has offered all that it read before, and each offer to
the writer is a step of its own.  Between any two steps of one branch the others may take theirs,
so the writer sees the offers of both drains in any order.  A read that fails ends all branches.
-/

namespace MetricsScript
namespace Tool

/-! ## What arrives -/

/-- The two pipes from a program. -/
inductive Pipe where
  | stdout
  | stderr
deriving DecidableEq, Repr

def Arrival.ofRead : Pipe → Read → Arrival
  | .stdout, read => .stdout read
  | .stderr, read => .stderr read

/-- The read of a pipe that arrives. -/
def Arrival.read? : Pipe → Arrival → Option Read
  | .stdout, .stdout read => some read
  | .stderr, .stderr read => some read
  | _, _ => none

def Arrival.status? : Arrival → Option Status
  | .exit status => some status
  | _ => none

/-- The reads of a pipe, in their order. -/
def readsOf (pipe : Pipe) (arrivals : List Arrival) : List Read :=
  arrivals.filterMap (Arrival.read? pipe)

def statusesOf (arrivals : List Arrival) : List Status :=
  arrivals.filterMap Arrival.status?

variable {pipe other : Pipe} {r : Read} {status : Status} {arrivals more : List Arrival}

@[simp]
theorem readsOf_append :
    readsOf pipe (arrivals ++ more) = readsOf pipe arrivals ++ readsOf pipe more :=
  List.filterMap_append

@[simp]
theorem statusesOf_append :
    statusesOf (arrivals ++ more) = statusesOf arrivals ++ statusesOf more :=
  List.filterMap_append

@[simp]
theorem readsOf_ofRead_self : readsOf pipe [.ofRead pipe r] = [r] := by
  cases pipe <;> rfl

theorem readsOf_ofRead_of_ne (h : other ≠ pipe) : readsOf other [.ofRead pipe r] = [] := by
  cases pipe <;> cases other <;> first | rfl | exact absurd rfl h

@[simp]
theorem readsOf_exit : readsOf pipe [.exit status] = [] := by
  cases pipe <;> rfl

@[simp]
theorem statusesOf_ofRead : statusesOf [.ofRead pipe r] = [] := by
  cases pipe <;> rfl

@[simp]
theorem statusesOf_exit : statusesOf [.exit status] = [status] :=
  rfl

theorem length_eq_readsOf_add_statusesOf (arrivals : List Arrival) :
    arrivals.length =
      (readsOf .stdout arrivals).length + (readsOf .stderr arrivals).length +
        (statusesOf arrivals).length := by
  induction arrivals with
  | nil => rfl
  | cons arrival arrivals ih =>
      cases arrival with
      | stdout read =>
          simp only [readsOf, statusesOf, Arrival.read?, Arrival.status?, List.filterMap_cons,
            List.length_cons] at ih ⊢
          omega
      | stderr read =>
          simp only [readsOf, statusesOf, Arrival.read?, Arrival.status?, List.filterMap_cons,
            List.length_cons] at ih ⊢
          omega
      | exit status =>
          simp only [readsOf, statusesOf, Arrival.read?, Arrival.status?, List.filterMap_cons,
            List.length_cons] at ih ⊢
          omega

/-! ## Branches -/

/-- The branch that drains a pipe. -/
structure Branch where
  drain : Drain
  /-- The bytes of the last read that are still to be offered to the writer. -/
  pending : List UInt8
  isOpen : Bool

namespace Branch

def fresh (echo : Bool) : Branch :=
  ⟨.fresh echo, [], true⟩

/-- The branch waits for a read. -/
structure Waits (b : Branch) : Prop where
  isOpen : b.isOpen = true
  pending : b.pending = []

/-- The branch after a read of bytes. -/
def take (b : Branch) (bytes : List UInt8) : Branch :=
  ⟨⟨b.drain.captured ++ bytes, b.drain.echoing⟩, if b.drain.echoing then bytes else [], true⟩

/-- The branch after the end of its pipe. -/
def close (b : Branch) : Branch :=
  { b with isOpen := false }

/-- The branch after the writer took some bytes. -/
def advance (b : Branch) (count : Nat) : Branch :=
  { b with pending := b.pending.drop count }

/-- The branch after the writer failed. -/
def giveUp (b : Branch) : Branch :=
  ⟨⟨b.drain.captured, false⟩, [], b.isOpen⟩

end Branch

/-- The three branches and the writer that both drains show their bytes to. -/
structure Joined where
  branch : Pipe → Branch
  status : Option Status
  /-- The error that a read gave. -/
  failure : Option SystemError
  sink : Sink

namespace Joined

def start (echo : Bool) (sink : Sink) : Joined :=
  ⟨fun _ => .fresh echo, none, none, sink⟩

/-- One branch and the writer are replaced. -/
def update (j : Joined) (pipe : Pipe) (b : Branch) (sink : Sink) : Joined :=
  { j with branch := Function.update j.branch pipe b, sink }

/-- What the branches come to: the first error, or the output when all of them are done. -/
def result? (j : Joined) : Option (Except SystemError Output) :=
  match j.failure with
  | some cause => some (.error cause)
  | none =>
      if (j.branch .stdout).isOpen || (j.branch .stderr).isOpen then none
      else j.status.map fun status =>
        .ok ⟨status.toCode, (j.branch .stdout).drain.text, (j.branch .stderr).drain.text⟩

variable {j : Joined} {b : Branch} {sink : Sink}

@[simp]
theorem update_branch_self : (j.update pipe b sink).branch pipe = b :=
  Function.update_self ..

theorem update_branch_of_ne (h : other ≠ pipe) :
    (j.update pipe b sink).branch other = j.branch other :=
  Function.update_of_ne h ..

/-- What holds of the new branch and of the other one holds of both. -/
theorem forall_update {P : Pipe → Branch → Prop} (hself : P pipe b)
    (hother : ∀ other, other ≠ pipe → P other (j.branch other)) (other : Pipe) :
    P other ((j.update pipe b sink).branch other) := by
  by_cases heq : other = pipe
  · subst heq
    rwa [update_branch_self]
  · rw [update_branch_of_ne heq]
    exact hother other heq

@[simp]
theorem update_status : (j.update pipe b sink).status = j.status :=
  rfl

@[simp]
theorem update_sink : (j.update pipe b sink).sink = sink :=
  rfl

@[simp]
theorem update_update {b' : Branch} {sink' : Sink} :
    (j.update pipe b sink).update pipe b' sink' = j.update pipe b' sink' := by
  simp [update]

@[simp]
theorem update_self : j.update pipe (j.branch pipe) j.sink = j := by
  simp [update]

end Joined

/-! ## Steps -/

/-- Something that happens during a collection. -/
inductive Event where
  | arrive (arrival : Arrival)
  /-- The writer takes bytes of a pipe. -/
  | shown (pipe : Pipe) (bytes : List UInt8)
  /-- The writer fails on an offer of a pipe's bytes. -/
  | refused (pipe : Pipe)

/-- One step of one branch. -/
inductive Step : Joined → Event → Joined → Prop where
  | exit {j : Joined} (status : Status) (hfailure : j.failure = none) (hstatus : j.status = none) :
      Step j (.arrive (.exit status)) { j with status := some status }
  | error {j : Joined} (pipe : Pipe) (cause : SystemError)
      (hfailure : j.failure = none) (hwaits : (j.branch pipe).Waits) :
      Step j (.arrive (.ofRead pipe (.error cause))) { j with failure := some cause }
  | close {j : Joined} (pipe : Pipe)
      (hfailure : j.failure = none) (hwaits : (j.branch pipe).Waits) :
      Step j (.arrive (.ofRead pipe (.data [])))
        (j.update pipe (j.branch pipe).close ((j.branch pipe).drain.finish j.sink))
  | read {j : Joined} (pipe : Pipe) (bytes : List UInt8)
      (hfailure : j.failure = none) (hwaits : (j.branch pipe).Waits) (hbytes : bytes ≠ []) :
      Step j (.arrive (.ofRead pipe (.data bytes)))
        (j.update pipe ((j.branch pipe).take bytes) j.sink)
  | shown {j : Joined} (pipe : Pipe) (count : Nat)
      (hfailure : j.failure = none) (hpending : (j.branch pipe).pending ≠ [])
      (haccept : j.sink.writer.accept (j.sink.writes + 1) (j.branch pipe).pending =
        some (count + 1)) :
      Step j (.shown pipe ((j.branch pipe).pending.take (count + 1)))
        (j.update pipe ((j.branch pipe).advance (count + 1))
          (j.sink.after ⟨(j.branch pipe).pending.take (count + 1), 1, true⟩))
  | refused {j : Joined} (pipe : Pipe)
      (hfailure : j.failure = none) (hpending : (j.branch pipe).pending ≠ [])
      (haccept : j.sink.writer.accept (j.sink.writes + 1) (j.branch pipe).pending = none ∨
        j.sink.writer.accept (j.sink.writes + 1) (j.branch pipe).pending = some 0) :
      Step j (.refused pipe)
        (j.update pipe (j.branch pipe).giveUp (j.sink.after ⟨[], 1, false⟩))

/-- What happens in some order of the steps. -/
inductive Steps (j : Joined) : List Event → Joined → Prop where
  | refl : Steps j [] j
  | snoc {events : List Event} {event : Event} {j' j'' : Joined}
      (hsteps : Steps j events j') (hstep : Step j' event j'') : Steps j (events ++ [event]) j''

variable {j j' j'' : Joined} {event : Event} {events events' : List Event} {echo : Bool}
  {sink : Sink} {b : Branch}

theorem Steps.append (h : Steps j events j') (h' : Steps j' events' j'') :
    Steps j (events ++ events') j'' := by
  induction h' with
  | refl => rwa [List.append_nil]
  | snoc _ hstep ih =>
      rw [← List.append_assoc]
      exact ih.snoc hstep

theorem Step.steps (h : Step j event j') : Steps j [event] j' :=
  Steps.snoc .refl h

def Event.arrival? : Event → Option Arrival
  | .arrive arrival => some arrival
  | _ => none

/-- What arrived, in its order. -/
def arrivalsOf (events : List Event) : List Arrival :=
  events.filterMap Event.arrival?

@[simp]
theorem arrivalsOf_append :
    arrivalsOf (events ++ events') = arrivalsOf events ++ arrivalsOf events' :=
  List.filterMap_append

@[simp]
theorem arrivalsOf_arrive {arrival : Arrival} : arrivalsOf [.arrive arrival] = [arrival] :=
  rfl

@[simp]
theorem arrivalsOf_shown {bytes : List UInt8} : arrivalsOf [.shown pipe bytes] = [] :=
  rfl

@[simp]
theorem arrivalsOf_refused : arrivalsOf [.refused pipe] = [] :=
  rfl

/-! ## What is captured -/

/-- The state of the branches is told by what arrived; no order of the steps and no writer has a
part in it. -/
structure Tracks (arrivals : List Arrival) (j : Joined) : Prop where
  captured : ∀ pipe, (j.branch pipe).drain.captured = (readsOf pipe arrivals).flatMap Read.bytes
  isOpen : ∀ pipe, (j.branch pipe).isOpen = true ↔ .data [] ∉ readsOf pipe arrivals
  status : j.status = (statusesOf arrivals).head?
  failure : ∀ cause, j.failure = some cause → ∃ pipe, .error cause ∈ readsOf pipe arrivals
  noFailure : j.failure = none → ∀ pipe cause, .error cause ∉ readsOf pipe arrivals

theorem tracks_start (echo : Bool) (sink : Sink) : Tracks [] (.start echo sink) where
  captured _ := rfl
  isOpen _ := iff_of_true rfl List.not_mem_nil
  status := rfl
  failure _ h := by cases h
  noFailure _ _ _ := List.not_mem_nil

/-- A branch of which nothing is read keeps what it captured. -/
theorem Tracks.update
    (h : Tracks arrivals j) (hcaptured : b.drain.captured = (j.branch pipe).drain.captured)
    (hopen : b.isOpen = (j.branch pipe).isOpen) : Tracks arrivals (j.update pipe b sink) where
  captured := by
    apply Joined.forall_update (P := fun other b => b.drain.captured = _)
    · rw [hcaptured, h.captured]
    · exact fun other _ => h.captured other
  isOpen := by
    apply Joined.forall_update (P := fun other b => b.isOpen = true ↔ _)
    · rw [hopen, h.isOpen]
    · exact fun other _ => h.isOpen other
  status := h.status
  failure := h.failure
  noFailure := h.noFailure

/-- A read of bytes, or of none at the end, is told of its own pipe. -/
theorem Tracks.read {bytes : List UInt8}
    (h : Tracks arrivals j) (hfailure : j.failure = none)
    (hcaptured : b.drain.captured = (j.branch pipe).drain.captured ++ bytes)
    (hopen : b.isOpen = true ↔ (j.branch pipe).isOpen = true ∧ bytes ≠ []) :
    Tracks (arrivals ++ [.ofRead pipe (.data bytes)]) (j.update pipe b sink) where
  captured := by
    apply Joined.forall_update (P := fun other b => b.drain.captured = _)
    · rw [hcaptured, h.captured]
      simp [Read.bytes]
    · intro other hother
      rw [h.captured, readsOf_append, readsOf_ofRead_of_ne hother, List.append_nil]
  isOpen := by
    apply Joined.forall_update (P := fun other b => b.isOpen = true ↔ _)
    · rw [hopen, h.isOpen]
      simp [eq_comm]
    · intro other hother
      rw [h.isOpen, readsOf_append, readsOf_ofRead_of_ne hother, List.append_nil]
  status := by
    simpa using h.status
  failure cause hcause := by
    have hnone : j.failure = some cause := hcause
    rw [hfailure] at hnone
    cases hnone
  noFailure _ other cause := by
    have hbefore := h.noFailure hfailure other cause
    by_cases hother : other = pipe
    · subst hother
      simpa using hbefore
    · simpa [readsOf_ofRead_of_ne hother] using hbefore

theorem Tracks.step (h : Tracks (arrivalsOf events) j) (hstep : Step j event j') :
    Tracks (arrivalsOf (events ++ [event])) j' := by
  rw [arrivalsOf_append]
  cases hstep with
  | exit status hfailure hstatus =>
      have hnone : statusesOf (arrivalsOf events) = [] := by
        rw [← List.head?_eq_none_iff, ← h.status, hstatus]
      constructor
      case captured => simpa using h.captured
      case isOpen => simpa using h.isOpen
      case status => simp [hnone]
      case failure => simpa using h.failure
      case noFailure => simpa using h.noFailure
  | error pipe cause hfailure hwaits =>
      constructor
      case captured =>
        intro other
        by_cases hother : other = pipe
        · subst hother
          simpa [Read.bytes] using h.captured other
        · simpa [readsOf_ofRead_of_ne hother] using h.captured other
      case isOpen =>
        intro other
        by_cases hother : other = pipe
        · subst hother
          simpa using h.isOpen other
        · simpa [readsOf_ofRead_of_ne hother] using h.isOpen other
      case status => simpa using h.status
      case failure =>
        rintro cause' ⟨⟩
        exact ⟨pipe, by simp⟩
      case noFailure =>
        intro hnone
        cases hnone
  | close pipe hfailure hwaits =>
      exact h.read hfailure (List.append_nil _).symm (by simp [Branch.close])
  | read pipe bytes hfailure hwaits hbytes =>
      exact h.read hfailure rfl (by simp [Branch.take, hwaits.isOpen, hbytes])
  | shown pipe count hfailure hpending haccept =>
      rw [arrivalsOf_shown, List.append_nil]
      exact h.update rfl rfl
  | refused pipe hfailure hpending haccept =>
      rw [arrivalsOf_refused, List.append_nil]
      exact h.update rfl rfl

theorem Steps.tracks (h : Steps (.start echo sink) events j) : Tracks (arrivalsOf events) j := by
  induction h with
  | refl => exact tracks_start echo sink
  | snoc _ hstep ih => exact ih.step hstep

/-! ## What is shown -/

/-- The third list is made of the other two, the elements of each in their order. -/
inductive Interleaves {α : Type} : List α → List α → List α → Prop where
  | nil : Interleaves [] [] []
  | left {x : α} {xs ys zs : List α} (h : Interleaves xs ys zs) :
      Interleaves (x :: xs) ys (x :: zs)
  | right {y : α} {xs ys zs : List α} (h : Interleaves xs ys zs) :
      Interleaves xs (y :: ys) (y :: zs)

section

variable {α : Type} {xs ys zs : List α}

theorem Interleaves.append_left (front : List α) (h : Interleaves xs ys zs) :
    Interleaves (front ++ xs) ys (front ++ zs) := by
  induction front with
  | nil => exact h
  | cons x front ih => exact ih.left

theorem Interleaves.append_right (front : List α) (h : Interleaves xs ys zs) :
    Interleaves xs (front ++ ys) (front ++ zs) := by
  induction front with
  | nil => exact h
  | cons y front ih => exact ih.right

end

/-- The bytes that the writer took. -/
def Event.taken : Event → List UInt8
  | .shown _ bytes => bytes
  | _ => []

/-- The bytes of a pipe that the writer took. -/
def Event.takenOf (pipe : Pipe) : Event → List UInt8
  | .shown other bytes => if other = pipe then bytes else []
  | _ => []

/-- The bytes of a pipe that were shown, in the order in which the writer took them. -/
def shownOf (pipe : Pipe) (events : List Event) : List UInt8 :=
  events.flatMap (Event.takenOf pipe)

theorem shownOf_append :
    shownOf pipe (events ++ events') = shownOf pipe events ++ shownOf pipe events' :=
  List.flatMap_append

theorem interleaves_shownOf (events : List Event) :
    Interleaves (shownOf .stdout events) (shownOf .stderr events)
      (events.flatMap Event.taken) := by
  induction events with
  | nil => exact .nil
  | cons event events ih =>
      simp only [shownOf, List.flatMap_cons] at ih ⊢
      cases event with
      | arrive arrival => exact ih
      | shown pipe bytes =>
          cases pipe with
          | stdout => exact ih.append_left bytes
          | stderr => exact ih.append_right bytes
      | refused pipe => exact ih

theorem Step.accepted (h : Step j event j') :
    j'.sink.accepted = j.sink.accepted ++ event.taken := by
  cases h with
  | exit status hfailure hstatus => exact (List.append_nil _).symm
  | error pipe cause hfailure hwaits => exact (List.append_nil _).symm
  | close pipe hfailure hwaits =>
      simp only [Joined.update_sink, Drain.finish, Event.taken, List.append_nil]
      split
      · rfl
      · rfl
  | read pipe bytes hfailure hwaits hbytes => exact (List.append_nil _).symm
  | shown pipe count hfailure hpending haccept => rfl
  | refused pipe hfailure hpending haccept => rfl

theorem Steps.accepted (h : Steps j events j') :
    j'.sink.accepted = j.sink.accepted ++ events.flatMap Event.taken := by
  induction h with
  | refl => exact (List.append_nil _).symm
  | snoc _ hstep ih =>
      rw [hstep.accepted, ih, List.flatMap_append, List.flatMap_singleton, List.append_assoc]

/-- What was shown of a pipe and what is still to be offered make up the front of what was
captured, and all of it as long as the drain was not given up. -/
structure Shows (echo : Bool) (pipe : Pipe) (events : List Event) (b : Branch) : Prop where
  front : shownOf pipe events ++ b.pending <+: b.drain.captured
  whole : b.drain.echoing = true → shownOf pipe events ++ b.pending = b.drain.captured
  silent : echo = false → shownOf pipe events ++ b.pending = [] ∧ b.drain.echoing = false
  givenUp : b.drain.echoing = false → echo = true → .refused pipe ∈ events
  closed : b.isOpen = false → b.pending = []

theorem shows_fresh (echo : Bool) (pipe : Pipe) : Shows echo pipe [] (.fresh echo) where
  front := List.nil_prefix
  whole _ := rfl
  silent h := ⟨rfl, h⟩
  givenUp h hecho := by
    have hfalse : echo = false := h
    rw [hecho] at hfalse
    cases hfalse
  closed _ := rfl

/-- What happens in another branch does not matter. -/
theorem Shows.aside
    (h : Shows echo pipe events b) (hevent : event.takenOf pipe = []) :
    Shows echo pipe (events ++ [event]) b := by
  have hshown : shownOf pipe (events ++ [event]) = shownOf pipe events := by
    rw [shownOf_append]
    simp [shownOf, hevent]
  constructor
  case front => simpa only [hshown] using h.front
  case whole => simpa only [hshown] using h.whole
  case silent => simpa only [hshown] using h.silent
  case givenUp => exact fun hechoing hecho => List.mem_append_left _ (h.givenUp hechoing hecho)
  case closed => exact h.closed

theorem Shows.take {bytes : List UInt8}
    (h : Shows echo pipe events b) (hwaits : b.Waits) :
    Shows echo pipe events (b.take bytes) := by
  have hfront := h.front
  have hwhole := h.whole
  rw [hwaits.pending, List.append_nil] at hfront hwhole
  constructor
  case front =>
    by_cases hechoing : b.drain.echoing = true
    · rw [hwhole hechoing]
      simp [Branch.take, hechoing]
    · simpa [Branch.take, hechoing] using hfront.trans (List.prefix_append _ bytes)
  case whole =>
    intro hechoing
    have hbefore : b.drain.echoing = true := hechoing
    rw [hwhole hbefore]
    simp [Branch.take, hbefore]
  case silent =>
    intro hecho
    obtain ⟨hnil, hechoing⟩ := h.silent hecho
    rw [hwaits.pending, List.append_nil] at hnil
    exact ⟨by simp [Branch.take, hechoing, hnil], hechoing⟩
  case givenUp => exact h.givenUp
  case closed =>
    intro hclosed
    cases hclosed

theorem Shows.close (h : Shows echo pipe events b) (hwaits : b.Waits) :
    Shows echo pipe events b.close where
  front := h.front
  whole := h.whole
  silent := h.silent
  givenUp := h.givenUp
  closed _ := hwaits.pending

theorem Shows.advance (h : Shows echo pipe events b) (count : Nat) :
    Shows echo pipe (events ++ [.shown pipe (b.pending.take count)]) (b.advance count) := by
  have hshown :
      shownOf pipe (events ++ [.shown pipe (b.pending.take count)]) ++ (b.advance count).pending =
        shownOf pipe events ++ b.pending := by
    rw [shownOf_append, List.append_assoc]
    simp [shownOf, Event.takenOf, Branch.advance]
  constructor
  case front =>
    rw [hshown]
    exact h.front
  case whole =>
    rw [hshown]
    exact h.whole
  case silent =>
    rw [hshown]
    exact h.silent
  case givenUp => exact fun hechoing hecho => List.mem_append_left _ (h.givenUp hechoing hecho)
  case closed =>
    intro hclosed
    have hpending := h.closed hclosed
    simp [Branch.advance, hpending]

theorem Shows.giveUp (h : Shows echo pipe events b) :
    Shows echo pipe (events ++ [.refused pipe]) b.giveUp := by
  have hshown : shownOf pipe (events ++ [.refused pipe]) = shownOf pipe events := by
    rw [shownOf_append]
    simp [shownOf, Event.takenOf]
  constructor
  case front =>
    rw [hshown]
    simpa [Branch.giveUp] using (List.prefix_append _ b.pending).trans h.front
  case whole =>
    intro hechoing
    cases hechoing
  case silent =>
    intro hecho
    have hnil := (h.silent hecho).1
    rw [hshown]
    exact ⟨by simpa [Branch.giveUp] using (List.append_eq_nil_iff.mp hnil).1, rfl⟩
  case givenUp => exact fun _ _ => by simp
  case closed => exact fun _ => rfl

theorem Step.shows
    (hstep : Step j event j') (h : ∀ pipe, Shows echo pipe events (j.branch pipe)) :
    ∀ pipe, Shows echo pipe (events ++ [event]) (j'.branch pipe) := by
  cases hstep with
  | exit status hfailure hstatus => exact fun pipe => (h pipe).aside rfl
  | error pipe cause hfailure hwaits => exact fun pipe => (h pipe).aside rfl
  | close pipe hfailure hwaits =>
      apply Joined.forall_update (P := fun other b => Shows echo other _ b)
      · exact ((h pipe).close hwaits).aside rfl
      · exact fun other _ => (h other).aside rfl
  | read pipe bytes hfailure hwaits hbytes =>
      apply Joined.forall_update (P := fun other b => Shows echo other _ b)
      · exact ((h pipe).take hwaits).aside rfl
      · exact fun other _ => (h other).aside rfl
  | shown pipe count hfailure hpending haccept =>
      apply Joined.forall_update (P := fun other b => Shows echo other _ b)
      · exact (h pipe).advance (count + 1)
      · exact fun other hother => (h other).aside (if_neg (Ne.symm hother))
  | refused pipe hfailure hpending haccept =>
      apply Joined.forall_update (P := fun other b => Shows echo other _ b)
      · exact (h pipe).giveUp
      · exact fun other _ => (h other).aside rfl

theorem Steps.shows (h : Steps (.start echo sink) events j) (pipe : Pipe) :
    Shows echo pipe events (j.branch pipe) := by
  induction h generalizing pipe with
  | refl => exact shows_fresh echo pipe
  | snoc _ hstep ih => exact hstep.shows ih pipe

/-! ## How long it takes -/

/-- The bytes that are still to be offered. -/
def Joined.pendingBytes (j : Joined) : Nat :=
  (j.branch .stdout).pending.length + (j.branch .stderr).pending.length

/-- The bytes that were captured. -/
def Joined.capturedBytes (j : Joined) : Nat :=
  (j.branch .stdout).drain.captured.length + (j.branch .stderr).drain.captured.length

/-- What one branch does weighs as much in all of them. -/
theorem Joined.update_length_le {arrived : Nat}
    (h : 1 + b.pending.length + (j.branch pipe).drain.captured.length ≤
      (j.branch pipe).pending.length + arrived + b.drain.captured.length) :
    1 + (j.update pipe b sink).pendingBytes + j.capturedBytes ≤
      j.pendingBytes + arrived + (j.update pipe b sink).capturedBytes := by
  cases pipe with
  | stdout =>
      have hother : (j.update .stdout b sink).branch .stderr = j.branch .stderr :=
        update_branch_of_ne (by decide)
      simp only [pendingBytes, capturedBytes, update_branch_self, hother]
      omega
  | stderr =>
      have hother : (j.update .stderr b sink).branch .stdout = j.branch .stdout :=
        update_branch_of_ne (by decide)
      simp only [pendingBytes, capturedBytes, update_branch_self, hother]
      omega

/-- A step deals with an arrival, or with a byte at least that is still to be offered. -/
theorem Step.length_le (h : Step j event j') :
    1 + j'.pendingBytes + j.capturedBytes ≤
      j.pendingBytes + (arrivalsOf [event]).length + j'.capturedBytes := by
  cases h with
  | exit status hfailure hstatus =>
      simp only [arrivalsOf_arrive, List.length_singleton, Joined.pendingBytes,
        Joined.capturedBytes]
      omega
  | error pipe cause hfailure hwaits =>
      simp only [arrivalsOf_arrive, List.length_singleton, Joined.pendingBytes,
        Joined.capturedBytes]
      omega
  | close pipe hfailure hwaits =>
      apply Joined.update_length_le
      simp only [Branch.close, arrivalsOf_arrive, List.length_singleton]
      omega
  | read pipe bytes hfailure hwaits hbytes =>
      apply Joined.update_length_le
      have hle : ((j.branch pipe).take bytes).pending.length ≤ bytes.length := by
        unfold Branch.take
        split
        · exact Nat.le_refl _
        · exact Nat.zero_le _
      simp only [Branch.take, arrivalsOf_arrive, List.length_singleton, List.length_append] at hle ⊢
      omega
  | shown pipe count hfailure hpending haccept =>
      apply Joined.update_length_le
      have hpos := List.length_pos_iff.mpr hpending
      simp only [Branch.advance, arrivalsOf_shown, List.length_nil, List.length_drop]
      omega
  | refused pipe hfailure hpending haccept =>
      apply Joined.update_length_le
      have hpos := List.length_pos_iff.mpr hpending
      simp only [Branch.giveUp, arrivalsOf_refused, List.length_nil]
      omega

theorem Steps.length_le (h : Steps (.start echo sink) events j) :
    events.length + j.pendingBytes ≤ (arrivalsOf events).length + j.capturedBytes := by
  induction h with
  | refl => exact Nat.le_refl _
  | snoc _ hstep ih =>
      have hle := hstep.length_le
      simp only [arrivalsOf_append, List.length_append, List.length_singleton]
      omega

end Tool
end MetricsScript
