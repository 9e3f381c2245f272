import Mathlib.Data.List.Induction
import MetricsScript.Proofs.Tool.Draining

/-!
# What is shown of a stream

A drain reads, offers what it read to the writer, and flushes the writer at the end.  All that it
did so far is its history.  What the writer took is the front of what was read, and as long as no
write was refused, only what is being offered is missing from it.  A refused write is the last
that the writer sees of the stream.
-/

namespace MetricsScript
namespace Tool

/-! ## Histories -/

/-- One thing that a drain does. -/
inductive Act where
  | read (bytes : List UInt8)
  | write (offered : List UInt8) (answer : Option Nat)
  | flush
deriving DecidableEq, Repr

namespace Act

def bytes : Act → List UInt8
  | .read bytes => bytes
  | .write _ _ | .flush => []

def offered : Act → List UInt8
  | .write offered _ => offered
  | .read _ | .flush => []

/-- The bytes that the writer took. -/
def taken : Act → List UInt8
  | .write offered answer => offered.take (answer.getD 0)
  | .read _ | .flush => []

def isRead : Act → Bool
  | .read _ => true
  | .write _ _ | .flush => false

def isWrite : Act → Bool
  | .write _ _ => true
  | .read _ | .flush => false

/-- A write that failed.  To take nothing is to fail. -/
def isRefused : Act → Bool
  | .write _ answer => answer.getD 0 == 0
  | .read _ | .flush => false

end Act

/-- A writer, by what was done with it. -/
def Writer.after (w : Writer) (past : List Act) : Sink :=
  ⟨w, past.flatMap Act.taken, past.countP Act.isWrite, past.count .flush⟩

/-- The writes by which bytes are offered until all are taken or the writer fails. -/
def Writer.acts (w : Writer) (calls : Nat) (bytes : List UInt8) : List Act :=
  match bytes with
  | [] => []
  | byte :: more =>
      match w.accept (calls + 1) (byte :: more) with
      | none => [.write (byte :: more) none]
      | some 0 => [.write (byte :: more) (some 0)]
      | some (n + 1) =>
          .write (byte :: more) (some (n + 1)) :: w.acts (calls + 1) (more.drop n)
termination_by bytes.length
decreasing_by simp only [List.length_drop, List.length_cons]; omega

namespace Drain

/-- What is done with a piece that was read. -/
def shows (d : Drain) (s : Sink) (bytes : List UInt8) : List Act :=
  if d.echoing then s.writer.acts s.writes bytes else []

/-- What is done at the end of the stream. -/
def closing (d : Drain) : List Act :=
  if d.echoing then [.flush] else []

/-- What is done with a stream from where it stands. -/
def acts (d : Drain) (s : Sink) : List Read → List Act
  | [] => d.closing
  | .error _ :: _ => []
  | .data bytes :: rest =>
      if bytes.isEmpty then d.closing
      else .read bytes :: d.shows s bytes ++ (d.take s bytes).1.acts (d.take s bytes).2 rest

end Drain

/-- What may be done after a history.  The writer is flushed only at the end, and not used any
more when it refused a write.  Before that, an offer holds all that was read and not yet taken,
and nothing else is done until there are no such bytes. -/
structure Allowed (w : Writer) (past : List Act) (act : Act) : Prop where
  unflushed : .flush ∉ past
  unrefused : act.isRead = false → past.any Act.isRefused = false
  whole : past.any Act.isRefused = false →
    past.flatMap Act.taken ++ act.offered = past.flatMap Act.bytes
  answered : ∀ offered answer, act = .write offered answer →
    answer = w.accept (past.countP Act.isWrite + 1) offered

/-- A history in which everything was allowed when it was done. -/
def Orderly (w : Writer) (acts : List Act) : Prop :=
  ∀ before act after, acts = before ++ act :: after → Allowed w before act

/-- An orderly history after which some bytes are still to be offered. -/
structure Awaits (w : Writer) (past : List Act) (pending : List UInt8) : Prop where
  orderly : Orderly w past
  unflushed : .flush ∉ past
  whole : past.any Act.isRefused = false →
    past.flatMap Act.taken ++ pending = past.flatMap Act.bytes

variable {w : Writer} {past before after : List Act} {act : Act} {pending bytes : List UInt8}
  {d : Drain} {s : Sink}

namespace Orderly

theorem nil : Orderly w [] := by
  intro before act after heq
  simp at heq

theorem of_append (h : Orderly w (before ++ after)) : Orderly w before := by
  intro before' act rest heq
  apply h before' act (rest ++ after)
  rw [heq, List.append_assoc, List.cons_append]

theorem concat (h : Orderly w past) (hact : Allowed w past act) : Orderly w (past ++ [act]) := by
  intro before next rest heq
  obtain rfl | ⟨rest, last, rfl⟩ := rest.eq_nil_or_concat
  · obtain ⟨hpast, hnext⟩ := List.append_inj' heq rfl
    cases hpast
    cases hnext
    exact hact
  · rw [List.concat_eq_append, ← List.cons_append, ← List.append_assoc] at heq
    obtain ⟨hpast, -⟩ := List.append_inj' heq rfl
    exact h before next rest hpast

/-- What the writer took is in front of what was read. -/
theorem taken_prefix {acts : List Act} (h : Orderly w acts) :
    acts.flatMap Act.taken <+: acts.flatMap Act.bytes := by
  induction acts using List.reverseRecOn with
  | nil => exact List.prefix_refl _
  | append_singleton past act ih =>
      have hfront := ih h.of_append
      have hact := h past act [] rfl
      rw [List.flatMap_append, List.flatMap_append, List.flatMap_singleton,
        List.flatMap_singleton]
      cases act with
      | read bytes =>
          rw [Act.taken, List.append_nil]
          exact hfront.trans (List.prefix_append _ _)
      | write offered answer =>
          have hwhole := hact.whole (hact.unrefused rfl)
          rw [Act.bytes, List.append_nil, ← hwhole]
          exact (List.prefix_append_right_inj _).mpr (List.take_prefix _ _)
      | flush => simpa [Act.taken, Act.bytes] using hfront

/-- Behind a refused write there are only reads. -/
theorem isRead_of_refused
    (h : Orderly w (before ++ after)) (hrefused : before.any Act.isRefused = true)
    (hmem : act ∈ after) : act.isRead = true := by
  obtain ⟨front, rest, rfl⟩ := List.append_of_mem hmem
  have hact := h (before ++ front) act rest (List.append_assoc ..).symm
  by_contra hread
  have hnone := hact.unrefused (Bool.eq_false_iff.mpr hread)
  rw [List.any_append, hrefused, Bool.true_or] at hnone
  cases hnone

/-- Nothing is behind a flush. -/
theorem eq_nil_of_flushed (h : Orderly w (before ++ after)) (hflush : .flush ∈ before) :
    after = [] := by
  cases after with
  | nil => rfl
  | cons act rest => exact absurd hflush (h before act rest rfl).unflushed

end Orderly

/-! ## Single steps -/

namespace Awaits

theorem nil : Awaits w [] [] where
  orderly := .nil
  unflushed := List.not_mem_nil
  whole _ := rfl

theorem of_refused (h : Awaits w past pending) (hrefused : past.any Act.isRefused = true) :
    Awaits w past bytes where
  orderly := h.orderly
  unflushed := h.unflushed
  whole hnone := by
    rw [hrefused] at hnone
    cases hnone

/-- What offers just the pending bytes keeps the history orderly. -/
theorem concat
    (h : Awaits w past act.offered)
    (hunrefused : act.isRead = false → past.any Act.isRefused = false)
    (hanswered : ∀ offered answer, act = .write offered answer →
      answer = w.accept (past.countP Act.isWrite + 1) offered) :
    Orderly w (past ++ [act]) :=
  h.orderly.concat ⟨h.unflushed, hunrefused, h.whole, hanswered⟩

theorem read (h : Awaits w past []) (bytes : List UInt8) :
    Awaits w (past ++ [.read bytes]) bytes where
  orderly := by
    refine concat h ?_ ?_
    · intro hread
      cases hread
    · intro offered answer heq
      cases heq
  unflushed := by
    simpa using h.unflushed
  whole hnone := by
    have hpast : past.any Act.isRefused = false := by simpa [Act.isRefused] using hnone
    have hwhole := h.whole hpast
    rw [List.append_nil] at hwhole
    simp [Act.taken, Act.bytes, hwhole]

theorem write
    (h : Awaits w past pending) (hnone : past.any Act.isRefused = false) {answer : Option Nat}
    (hanswer : w.accept (past.countP Act.isWrite + 1) pending = answer) :
    Awaits w (past ++ [.write pending answer]) (pending.drop (answer.getD 0)) where
  orderly := by
    refine concat h (fun _ => hnone) ?_
    rintro offered answer' ⟨⟩
    exact hanswer.symm
  unflushed := by
    simpa using h.unflushed
  whole _ := by
    simp [Act.taken, Act.bytes, List.append_assoc, h.whole hnone]

theorem flush (h : Awaits w past []) (hnone : past.any Act.isRefused = false) :
    Orderly w (past ++ [.flush]) := by
  refine concat h (fun _ => hnone) ?_
  intro offered answer heq
  cases heq

/-- All that is pending is offered, write by write. -/
theorem offer (h : Awaits w past pending) (hnone : past.any Act.isRefused = false) :
    Awaits w (past ++ w.acts (past.countP Act.isWrite) pending) [] := by
  generalize hcalls : past.countP Act.isWrite = calls
  -- Each write is put behind the history, so the history grows along the induction.
  induction calls, pending using Writer.acts.induct w generalizing past with
  | case1 calls =>
      rw [Writer.acts, List.append_nil]
      exact h
  | case2 calls byte more haccept | case3 calls byte more haccept =>
      rw [← hcalls] at haccept
      rw [Writer.acts, ← hcalls, haccept]
      exact (h.write hnone haccept).of_refused (by simp [Act.isRefused])
  | case4 calls byte more count haccept ih =>
      rw [← hcalls] at haccept
      have hnext := h.write hnone haccept
      have hall := ih hnext (by simp [hnone, Act.isRefused]) (by simp [hcalls, Act.isWrite])
      rw [List.append_assoc] at hall
      rw [Writer.acts, ← hcalls, haccept, hcalls]
      exact hall

end Awaits

/-! ## The writes of a piece -/

theorem Writer.exists_write_of_mem_acts {calls : Nat} (h : act ∈ w.acts calls bytes) :
    ∃ offered answer, act = .write offered answer := by
  induction calls, bytes using Writer.acts.induct w with
  | case1 calls =>
      rw [acts] at h
      cases h
  | case2 calls byte more haccept | case3 calls byte more haccept =>
      rw [acts, haccept] at h
      exact ⟨_, _, List.mem_singleton.mp h⟩
  | case4 calls byte more count haccept ih =>
      rw [acts, haccept] at h
      obtain hfirst | hrest := List.mem_cons.mp h
      · exact ⟨_, _, hfirst⟩
      · exact ih hrest

/-- An offer comes to what its writes come to. -/
theorem Writer.offerAll_eq (w : Writer) (calls : Nat) (bytes : List UInt8) :
    w.offerAll calls bytes =
      ⟨(w.acts calls bytes).flatMap Act.taken, (w.acts calls bytes).countP Act.isWrite,
        !(w.acts calls bytes).any Act.isRefused⟩ := by
  induction calls, bytes using Writer.acts.induct w with
  | case1 calls =>
      rw [offerAll, acts]
      rfl
  | case2 calls byte more haccept =>
      rw [offerAll_of_refused (.inl haccept), acts, haccept]
      rfl
  | case3 calls byte more haccept =>
      rw [offerAll_of_refused (.inr haccept), acts, haccept]
      rfl
  | case4 calls byte more count haccept ih =>
      rw [offerAll_of_taken haccept, acts, haccept, ih, List.countP_cons_of_pos rfl]
      simp [Act.taken, Act.isRefused]

namespace Drain

theorem shows_of_echoing (h : d.echoing = true) :
    d.shows s bytes = s.writer.acts s.writes bytes :=
  if_pos h

theorem shows_of_not_echoing (h : d.echoing = false) : d.shows s bytes = [] := by
  rw [shows, h, if_neg Bool.false_ne_true]

theorem exists_write_of_mem_shows (h : act ∈ d.shows s bytes) :
    ∃ offered answer, act = .write offered answer := by
  rw [shows] at h
  split at h
  · exact Writer.exists_write_of_mem_acts h
  · cases h

theorem count_flush_shows : (d.shows s bytes).count .flush = 0 := by
  apply List.count_eq_zero.mpr
  intro hmem
  obtain ⟨offered, answer, heq⟩ := exists_write_of_mem_shows hmem
  cases heq

/-- The drain and the writer stand as the writes of the piece left them. -/
theorem take_after :
    d.take (w.after past) bytes =
      (⟨d.captured ++ bytes,
          d.echoing && !(d.shows (w.after past) bytes).any Act.isRefused⟩,
        w.after (past ++ .read bytes :: d.shows (w.after past) bytes)) := by
  have hflush : (d.shows (w.after past) bytes).count .flush = 0 := count_flush_shows
  cases hechoing : d.echoing with
  | true =>
      rw [shows_of_echoing hechoing] at hflush ⊢
      rw [take, if_pos hechoing, Writer.offerAll_eq]
      simp only [Writer.after, Sink.after] at hflush ⊢
      simp [Act.taken, Act.isWrite, hflush]
  | false =>
      rw [shows_of_not_echoing hechoing, take, hechoing, if_neg Bool.false_ne_true]
      simp [Writer.after, Act.taken, Act.isWrite]

end Drain

/-! ## The whole stream -/

/-- A drain between two reads, and its writer, by what was done so far. -/
structure Stands (w : Writer) (past : List Act) (d : Drain) (s : Sink) : Prop where
  awaits : Awaits w past []
  sink : s = w.after past
  refused : past.any Act.isRefused = !d.echoing

/-- A writer that is left behind, by all that was done and by what stopped the stream. -/
structure Finished (w : Writer) (acts : List Act) (stop : Option Read) (s : Sink) : Prop where
  orderly : Orderly w acts
  sink : s = w.after acts
  whole : acts.any Act.isRefused = false → acts.flatMap Act.taken = acts.flatMap Act.bytes
  flushed : (∀ cause, stop ≠ some (.error cause)) →
    s.flushes = if acts.any Act.isRefused then 0 else 1
  unflushed : ∀ cause, stop = some (.error cause) → s.flushes = 0

/-- As long as no write was refused, only what is being offered is missing. -/
theorem Finished.whole_before
    {stop : Option Read} (h : Finished w (before ++ after) stop s)
    (hnone : before.any Act.isRefused = false) :
    before.flatMap Act.taken ++ after.head?.elim [] Act.offered = before.flatMap Act.bytes := by
  cases after with
  | nil =>
      have hwhole := h.whole
      rw [List.append_nil] at hwhole
      simpa using hwhole hnone
  | cons act rest => exact (h.orderly before act rest rfl).whole hnone

/-- Each answer is the writer's, to the offer of that number. -/
theorem Orderly.answer_eq
    (h : Orderly w (before ++ after)) {offered : List UInt8} {answer : Option Nat}
    (hhead : after.head? = some (.write offered answer)) :
    answer = w.accept (before.countP Act.isWrite + 1) offered := by
  obtain ⟨rest, rfl⟩ := List.head?_eq_some_iff.mp hhead
  exact (h before _ rest rfl).answered offered answer rfl

namespace Stands

theorem start (w : Writer) : Stands w [] (.fresh true) (.ofWriter w) where
  awaits := .nil
  sink := rfl
  refused := rfl

theorem flushes (h : Stands w past d s) : s.flushes = 0 := by
  rw [h.sink]
  exact List.count_eq_zero.mpr h.awaits.unflushed

theorem whole (h : Stands w past d s) (hnone : past.any Act.isRefused = false) :
    past.flatMap Act.taken = past.flatMap Act.bytes := by
  simpa using h.awaits.whole hnone

theorem take (h : Stands w past d s) (bytes : List UInt8) :
    Stands w (past ++ .read bytes :: d.shows s bytes) (d.take s bytes).1 (d.take s bytes).2 := by
  obtain ⟨hawaits, rfl, hrefused⟩ := h
  have hread := hawaits.read bytes
  rw [Drain.take_after]
  constructor
  · rw [← List.singleton_append, ← List.append_assoc]
    cases hechoing : d.echoing with
    | true =>
        rw [hechoing, Bool.not_true] at hrefused
        have hnone : (past ++ [Act.read bytes]).any Act.isRefused = false := by
          simp [hrefused, Act.isRefused]
        rw [Drain.shows_of_echoing hechoing]
        simpa [Writer.after, Act.isWrite] using hread.offer hnone
    | false =>
        rw [hechoing, Bool.not_false] at hrefused
        rw [Drain.shows_of_not_echoing hechoing, List.append_nil]
        exact hread.of_refused (by simp [hrefused])
  · rfl
  · simp [hrefused, Act.isRefused]

theorem close
    (h : Stands w past d s) {stop : Option Read} (hstop : ∀ cause, stop ≠ some (.error cause)) :
    Finished w (past ++ d.closing) stop (d.finish s) := by
  have hrefused := h.refused
  unfold Drain.closing Drain.finish
  cases hechoing : d.echoing with
  | true =>
      rw [hechoing, Bool.not_true] at hrefused
      rw [if_pos rfl, if_pos rfl]
      constructor
      · exact h.awaits.flush hrefused
      · simp [h.sink, Writer.after, Sink.flush, Act.taken, Act.isWrite]
      · simpa [Act.taken, Act.bytes, Act.isRefused] using h.whole
      · simp [Sink.flush, h.flushes, hrefused, Act.isRefused]
      · intro cause herror
        exact absurd herror (hstop cause)
  | false =>
      rw [hechoing, Bool.not_false] at hrefused
      rw [if_neg Bool.false_ne_true, if_neg Bool.false_ne_true, List.append_nil]
      constructor
      · exact h.awaits.orderly
      · exact h.sink
      · exact h.whole
      · simp [h.flushes, hrefused]
      · intro cause herror
        exact absurd herror (hstop cause)

theorem abandon (h : Stands w past d s) (cause : SystemError) :
    Finished w past (some (.error cause)) s where
  orderly := h.awaits.orderly
  sink := h.sink
  whole := h.whole
  flushed hstop := absurd rfl (hstop cause)
  unflushed _ _ := h.flushes

theorem run (h : Stands w past d s) (reads : List Read) :
    Finished w (past ++ d.acts s reads) (reads.dropWhile Read.isPiece).head?
      (d.run s reads).sink := by
  induction reads generalizing past d s with
  | nil => exact h.close (by simp)
  | cons read rest ih =>
      cases read with
      | error cause => simpa [Drain.acts, Drain.run, Read.isPiece] using h.abandon cause
      | data bytes =>
          by_cases hempty : bytes.isEmpty = true
          · have hclosed : Finished w (past ++ d.closing) (some (.data bytes)) (d.finish s) :=
              h.close (by simp)
            simpa [Drain.acts, Drain.run, Read.isPiece, hempty] using hclosed
          · have hrest := ih (h.take bytes)
            simpa [Drain.acts, Drain.run, Read.isPiece, hempty] using hrest

end Stands

namespace Drain

/-- Every piece up to the first stop is read, and nothing else. -/
theorem filter_isRead_acts (d : Drain) (s : Sink) (reads : List Read) :
    (d.acts s reads).filter Act.isRead =
      (reads.takeWhile Read.isPiece).map fun read => .read read.bytes := by
  have hclosing (d : Drain) : d.closing.filter Act.isRead = [] := by
    unfold closing
    split
    · rfl
    · rfl
  have hshows (d : Drain) (s : Sink) (bytes : List UInt8) :
      (d.shows s bytes).filter Act.isRead = [] := by
    rw [List.filter_eq_nil_iff]
    intro act hmem
    obtain ⟨offered, answer, rfl⟩ := exists_write_of_mem_shows hmem
    exact Bool.false_ne_true
  induction reads generalizing d s with
  | nil => exact hclosing d
  | cons read rest ih =>
      cases read with
      | error cause => rfl
      | data bytes =>
          by_cases hempty : bytes.isEmpty = true
          · simp [acts, Read.isPiece, hempty, hclosing]
          · have hpiece : (Read.data bytes).isPiece = true := by simp [Read.isPiece, hempty]
            rw [acts, if_neg hempty, List.cons_append, List.filter_cons_of_pos rfl,
              List.filter_append, hshows, List.nil_append, ih,
              List.takeWhile_cons_of_pos hpiece, List.map_cons, Read.bytes]

/-- What comes later in a stream has no part in what is done before it is read. -/
theorem acts_prefix
    {front : List Read} (h : ∀ read ∈ front, read.isPiece = true) (d : Drain) (s : Sink)
    (cause : SystemError) (rest : List Read) :
    d.acts s (front ++ [.error cause]) <+: d.acts s (front ++ rest) := by
  induction front generalizing d s with
  | nil => exact List.nil_prefix
  | cons read front ih =>
      obtain ⟨hpiece, hfront⟩ := List.forall_mem_cons.mp h
      cases read with
      | error cause => cases hpiece
      | data bytes =>
          have hempty : ¬bytes.isEmpty = true := by simpa [Read.isPiece] using hpiece
          rw [List.cons_append, List.cons_append, acts, acts, if_neg hempty, if_neg hempty]
          exact (List.prefix_append_right_inj _).mpr (ih hfront _ _)

end Drain

/-! ## The flush -/

/-- The same writer in use, which can be flushed or not. -/
def Sink.setFlushes (s : Sink) (flushes : Bool) : Sink :=
  { s with writer := { s.writer with flushes } }

/-- Only the answers of a writer decide what comes of an offer. -/
theorem Writer.offerAll_congr {w' : Writer} (h : w'.accept = w.accept) (calls : Nat)
    (bytes : List UInt8) : w'.offerAll calls bytes = w.offerAll calls bytes := by
  induction calls, bytes using Writer.offerAll.induct w with
  | case1 calls => rw [offerAll, offerAll]
  | case2 calls byte more haccept =>
      rw [offerAll_of_refused (.inl haccept)]
      rw [← h] at haccept
      rw [offerAll_of_refused (.inl haccept)]
  | case3 calls byte more haccept =>
      rw [offerAll_of_refused (.inr haccept)]
      rw [← h] at haccept
      rw [offerAll_of_refused (.inr haccept)]
  | case4 calls byte more count haccept ih =>
      rw [offerAll_of_taken haccept]
      rw [← h] at haccept
      rw [offerAll_of_taken haccept, ih]

theorem Drain.take_setFlushes (flushes : Bool) :
    d.take (s.setFlushes flushes) bytes =
      ((d.take s bytes).1, (d.take s bytes).2.setFlushes flushes) := by
  have hoffered : (s.setFlushes flushes).writer.offerAll s.writes bytes =
      s.writer.offerAll s.writes bytes := by
    apply Writer.offerAll_congr
    rfl
  unfold take
  by_cases hechoing : d.echoing = true
  · rw [if_pos hechoing, if_pos hechoing, ← hoffered]
    rfl
  · rw [if_neg hechoing, if_neg hechoing]

/-- Whether the writer can be flushed has no part in anything. -/
theorem Drain.run_setFlushes (flushes : Bool) (d : Drain) (s : Sink) (reads : List Read) :
    d.run (s.setFlushes flushes) reads =
      { d.run s reads with sink := (d.run s reads).sink.setFlushes flushes } := by
  have hfinish (d : Drain) (s : Sink) :
      d.finish (s.setFlushes flushes) = (d.finish s).setFlushes flushes := by
    unfold finish
    split
    · rfl
    · rfl
  induction reads generalizing d s with
  | nil => simp [run, hfinish]
  | cons read rest ih =>
      cases read with
      | error cause => rfl
      | data bytes =>
          by_cases hempty : bytes.isEmpty = true
          · simp [run, hempty, hfinish]
          · simp [run, hempty, take_setFlushes, ih]

/-- What the writer took is the front of what was read: at every moment only what is being
offered is missing from it, as long as no write was refused.  Behind a refused write there are
only reads.  The writer is flushed once, at the end of a stream that no error stopped, and only
if no write was refused; whether it could be flushed changes nothing. -/
theorem echo_stops_at_refusal (reads : List Read) (w : Writer) :
    let drained := drain (some reads) (some w)
    let acts := (Drain.fresh true).acts (.ofWriter w)
    let stop := (reads.dropWhile Read.isPiece).head?
    -- The history is that of the run, whatever part of the stream was read.
    (drained.sink = w.after (acts reads) ∧
      (acts reads).filter Act.isRead =
        (reads.takeWhile Read.isPiece).map (fun read => .read read.bytes) ∧
      ∀ front rest cause, reads = front ++ rest → (∀ read ∈ front, read.isPiece = true) →
        acts (front ++ [.error cause]) <+: acts reads) ∧
    (∀ before after, acts reads = before ++ after →
      before.flatMap Act.taken <+: before.flatMap Act.bytes ∧
      (before.any Act.isRefused = false →
        before.flatMap Act.taken ++ after.head?.elim [] Act.offered =
          before.flatMap Act.bytes) ∧
      (before.any Act.isRefused = true → ∀ act ∈ after, act.isRead = true) ∧
      (∀ offered answer, after.head? = some (.write offered answer) →
        answer = w.accept (before.countP Act.isWrite + 1) offered) ∧
      (.flush ∈ before → after = [])) ∧
    ((∀ cause, stop ≠ some (.error cause)) →
      drained.sink.flushes = if (acts reads).any Act.isRefused then 0 else 1) ∧
    (∀ cause, stop = some (.error cause) → drained.sink.flushes = 0) ∧
    ∀ flushes, drain (some reads) (some { w with flushes }) =
      { drained with sink := drained.sink.setFlushes flushes } := by
  intro drained acts stop
  have hfinished : Finished w (acts reads) stop drained.sink := (Stands.start w).run reads
  refine ⟨⟨hfinished.sink, ?_, ?_⟩, ?_, hfinished.flushed, hfinished.unflushed, ?_⟩
  · exact Drain.filter_isRead_acts _ _ reads
  · rintro front rest cause rfl hfront
    exact Drain.acts_prefix hfront _ _ cause rest
  · intro before after hacts
    rw [hacts] at hfinished
    have horderly := hfinished.orderly
    refine ⟨horderly.of_append.taken_prefix, hfinished.whole_before, ?_, ?_,
      horderly.eq_nil_of_flushed⟩
    · intro hrefused act hmem
      exact horderly.isRead_of_refused hrefused hmem
    · intro offered answer hhead
      exact horderly.answer_eq hhead
  · intro flushes
    exact Drain.run_setFlushes flushes (.fresh true) (.ofWriter w) reads

/-- A writer that takes two bytes at a time and fails from its fourth write on gets five bytes
and no flush.  Without anything to read it is flushed once, although it cannot be, and never when
a read fails. -/
theorem echo_stops_at_refusal_inside_piece :
    let reads : List Read := [.data [1, 2, 3], .data [4, 5, 6], .data [7]]
    let w : Writer := .limited (some 2) (some 4) false
    ((drain (some reads) (some w)).sink.accepted = [1, 2, 3, 4, 5] ∧
      (drain (some reads) (some w)).sink.writes = 4 ∧
      (drain (some reads) (some w)).sink.flushes = 0) ∧
    (drain (some []) (some w)).sink.flushes = 1 ∧
    (drain (some [.data [1], .error ⟨.brokenPipe, "broken pipe"⟩]) (some w)).sink.flushes =
      0 := by
  intro reads w
  have hacts : (Drain.fresh true).acts (.ofWriter w) reads =
      [.read [1, 2, 3], .write [1, 2, 3] (some 2), .write [3] (some 1), .read [4, 5, 6],
        .write [4, 5, 6] (some 2), .write [6] none, .read [7]] := by
    decide +kernel
  obtain ⟨⟨hsink, -⟩, -⟩ := echo_stops_at_refusal reads w
  obtain ⟨-, -, hflushed, -⟩ := echo_stops_at_refusal [] w
  obtain ⟨-, -, -, hunflushed, -⟩ :=
    echo_stops_at_refusal [.data [1], .error ⟨.brokenPipe, "broken pipe"⟩] w
  rw [hacts] at hsink
  refine ⟨?_, ?_, ?_⟩
  · rw [hsink]
    exact ⟨rfl, rfl, rfl⟩
  · exact hflushed (by simp)
  · exact hunflushed _ rfl

end Tool
end MetricsScript
