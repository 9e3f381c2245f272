import Mathlib.Data.List.Induction
import MetricsScript.Proofs.Tool.Branches

/-!
# The pipes of a program stay apart

Whatever the order in which the branches of a collection take their steps, the output is the same:
the text of each pipe, and the exit code.  What the writer takes is made of what the two pipes
gave, each in its order.  The collection itself deals with each arrival at once, which is one of
these orders.
-/

namespace MetricsScript
namespace Tool

open Text.Utf8

/-! ## Programs -/

/-- What a pipe gives: pieces with bytes in them, and then its end or an error. -/
structure Source where
  chunks : List (List UInt8)
  nonempty : [] ∉ chunks
  failure : Option SystemError

namespace Source

def bytes (s : Source) : List UInt8 :=
  s.chunks.flatten

/-- What comes behind the bytes. -/
def stop (s : Source) : Read :=
  match s.failure with
  | none => .data []
  | some cause => .error cause

def reads (s : Source) : List Read :=
  s.chunks.map .data ++ [s.stop]

variable {s : Source} {reads : List Read} {r : Read} {cause : SystemError}

theorem failure_eq_none_of_stop (h : s.stop = .data []) : s.failure = none := by
  unfold stop at h
  split at h
  · next hnone => exact hnone
  · cases h

theorem failure_eq_some_of_stop (h : s.stop = .error cause) : s.failure = some cause := by
  unfold stop at h
  split at h
  · cases h
  · next hsome =>
      cases h
      exact hsome

theorem stop_bytes : s.stop.bytes = [] := by
  unfold stop
  split
  · rfl
  · rfl

theorem reads_bytes : s.reads.flatMap Read.bytes = s.bytes := by
  have hchunks : (s.chunks.map Read.data).flatMap Read.bytes = s.chunks.flatten := by
    rw [List.flatMap_map]
    exact List.flatMap_id
  rw [Source.reads, List.flatMap_append, hchunks, List.flatMap_singleton, stop_bytes,
    List.append_nil, bytes]

theorem bytes_prefix_of_reads_prefix (h : reads <+: s.reads) :
    reads.flatMap Read.bytes <+: s.bytes := by
  obtain ⟨more, hmore⟩ := h
  rw [← reads_bytes, ← hmore, List.flatMap_append]
  exact List.prefix_append _ _

/-- A read that gives no bytes is the last. -/
theorem eq_reads_of_not_isPiece
    (h : reads <+: s.reads) (hmem : r ∈ reads) (hr : r.isPiece = false) :
    reads = s.reads ∧ r = s.stop := by
  have hpiece : ∀ r ∈ s.chunks.map Read.data, r.isPiece = true := by
    intro r hr
    obtain ⟨bytes, hbytes, rfl⟩ := List.mem_map.mp hr
    have hne : bytes ≠ [] := by
      rintro rfl
      exact s.nonempty hbytes
    simpa [Read.isPiece] using hne
  have hnot : r ∉ s.chunks.map Read.data := by
    intro hmem
    rw [hpiece r hmem] at hr
    cases hr
  obtain heq | hbefore := List.prefix_concat_iff.mp h
  · rw [heq] at hmem
    have hstop := (List.mem_append.mp hmem).resolve_left hnot
    exact ⟨heq, List.mem_singleton.mp hstop⟩
  · exact absurd (hbefore.subset hmem) hnot

end Source

/-- A program, by what its two pipes give and how it ends. -/
structure Child where
  source : Pipe → Source
  status : Status

namespace Child

/-- The output that is to be collected. -/
def output (child : Child) : Output :=
  ⟨child.status.toCode, decode (child.source .stdout).bytes, decode (child.source .stderr).bytes⟩

theorem output_of_code (child : Child) (code : Int32) (h : child.status = .code code) :
    child.output =
      ⟨code, decode (child.source .stdout).bytes, decode (child.source .stderr).bytes⟩ := by
  rw [output, h]
  rfl

theorem output_of_signal (child : Child) (h : child.status = .signal) :
    child.output =
      ⟨-1, decode (child.source .stdout).bytes, decode (child.source .stderr).bytes⟩ := by
  rw [output, h]
  rfl

/-- What arrived is what the program gave so far, in whatever order. -/
structure Sends (child : Child) (arrivals : List Arrival) : Prop where
  reads : ∀ pipe, readsOf pipe arrivals <+: (child.source pipe).reads
  statuses : statusesOf arrivals <+: [child.status]

/-- All that the program gives has arrived, in whatever order. -/
structure Finishes (child : Child) (arrivals : List Arrival) : Prop where
  reads : ∀ pipe, readsOf pipe arrivals = (child.source pipe).reads
  statuses : statusesOf arrivals = [child.status]

/-- The output if no read failed, and the error of a read that did fail. -/
def EndsWith (child : Child) : Except SystemError Output → Prop
  | .ok output => (∀ pipe, (child.source pipe).failure = none) ∧ output = child.output
  | .error cause => ∃ pipe, (child.source pipe).failure = some cause

/-- The most steps that the branches can take: one for each arrival, and one for each byte. -/
def stepBound (child : Child) : Nat :=
  (child.source .stdout).reads.length + (child.source .stderr).reads.length + 1 +
    (child.source .stdout).bytes.length + (child.source .stderr).bytes.length

end Child

variable {child : Child} {arrivals : List Arrival} {arrival : Arrival} {pipe : Pipe} {r : Read}
  {j j' : Joined} {events : List Event} {echo : Bool} {sink : Sink} {cause : SystemError}
  {c : Collector}

theorem Child.Finishes.sends (h : child.Finishes arrivals) : child.Sends arrivals where
  reads pipe := (h.reads pipe).symm ▸ List.prefix_refl _
  statuses := h.statuses.symm ▸ List.prefix_refl _

theorem Child.Sends.of_append {more : List Arrival} (h : child.Sends (arrivals ++ more)) :
    child.Sends arrivals where
  reads pipe := by
    have hreads := h.reads pipe
    rw [readsOf_append] at hreads
    exact (List.prefix_append _ _).trans hreads
  statuses := by
    have hstatuses := h.statuses
    rw [statusesOf_append] at hstatuses
    exact (List.prefix_append _ _).trans hstatuses

theorem Child.Sends.ofRead
    (h : child.Sends arrivals)
    (hnext : readsOf pipe arrivals ++ [r] <+: (child.source pipe).reads) :
    child.Sends (arrivals ++ [.ofRead pipe r]) where
  reads other := by
    by_cases hother : other = pipe
    · subst hother
      simpa using hnext
    · simpa [readsOf_ofRead_of_ne hother] using h.reads other
  statuses := by
    simpa using h.statuses

theorem Child.Sends.exit (h : child.Sends arrivals) (hnone : statusesOf arrivals = []) :
    child.Sends (arrivals ++ [.exit child.status]) where
  reads pipe := by
    simpa using h.reads pipe
  statuses := by
    simp [hnone]

/-! ## Every order of the steps -/

theorem Tracks.closed
    (h : Tracks arrivals j) (hsends : child.Sends arrivals)
    (hclosed : (j.branch pipe).isOpen = false) :
    (child.source pipe).failure = none ∧
      (j.branch pipe).drain.captured = (child.source pipe).bytes := by
  have hmem : .data [] ∈ readsOf pipe arrivals := by
    by_contra hnot
    rw [(h.isOpen pipe).mpr hnot] at hclosed
    cases hclosed
  obtain ⟨hall, hstop⟩ := Source.eq_reads_of_not_isPiece (hsends.reads pipe) hmem rfl
  refine ⟨Source.failure_eq_none_of_stop hstop.symm, ?_⟩
  rw [h.captured, hall, Source.reads_bytes]

theorem Tracks.status_eq
    (h : Tracks arrivals j) (hsends : child.Sends arrivals) {status : Status}
    (hstatus : j.status = some status) : status = child.status := by
  rw [h.status] at hstatus
  have hmem := List.mem_of_head? hstatus
  exact List.mem_singleton.mp (hsends.statuses.subset hmem)

theorem Tracks.failure_eq
    (h : Tracks arrivals j) (hsends : child.Sends arrivals) (hfailure : j.failure = some cause) :
    ∃ pipe, (child.source pipe).failure = some cause := by
  obtain ⟨pipe, hmem⟩ := h.failure cause hfailure
  obtain ⟨-, hstop⟩ := Source.eq_reads_of_not_isPiece (hsends.reads pipe) hmem rfl
  exact ⟨pipe, Source.failure_eq_some_of_stop hstop.symm⟩

/-- A read that failed is all that is left. -/
theorem Tracks.exists_error
    (h : Tracks arrivals j) (hmem : .error cause ∈ readsOf pipe arrivals) :
    ∃ cause, j.result? = some (.error cause) := by
  cases hfailure : j.failure with
  | none => exact absurd hmem (h.noFailure hfailure pipe cause)
  | some cause =>
      refine ⟨cause, ?_⟩
      rw [Joined.result?, hfailure]

theorem Tracks.endsWith
    (h : Tracks arrivals j) (hsends : child.Sends arrivals)
    {result : Except SystemError Output} (hresult : j.result? = some result) :
    child.EndsWith result := by
  unfold Joined.result? at hresult
  split at hresult
  · next hfailure =>
      cases hresult
      exact h.failure_eq hsends hfailure
  · split at hresult
    · cases hresult
    · next hclosed =>
        rw [Bool.not_eq_true, Bool.or_eq_false_iff] at hclosed
        obtain ⟨status, hstatus, rfl⟩ := Option.map_eq_some_iff.mp hresult
        obtain ⟨hnoneOut, hout⟩ := h.closed hsends hclosed.1
        obtain ⟨hnoneErr, herr⟩ := h.closed hsends hclosed.2
        constructor
        · intro pipe
          cases pipe with
          | stdout => exact hnoneOut
          | stderr => exact hnoneErr
        · rw [h.status_eq hsends hstatus, Child.output, Drain.text, Drain.text, hout, herr]

theorem exists_offer_step (hfailure : j.failure = none) (hpending : (j.branch pipe).pending ≠ []) :
    ∃ event j', Step j event j' ∧ arrivalsOf [event] = [] := by
  cases haccept : j.sink.writer.accept (j.sink.writes + 1) (j.branch pipe).pending with
  | none => exact ⟨_, _, .refused pipe hfailure hpending (.inl haccept), rfl⟩
  | some count =>
      cases count with
      | zero => exact ⟨_, _, .refused pipe hfailure hpending (.inr haccept), rfl⟩
      | succ count => exact ⟨_, _, .shown pipe count hfailure hpending haccept, rfl⟩

theorem exists_read_step
    (hfailure : j.failure = none) (hwaits : (j.branch pipe).Waits) (r : Read) :
    ∃ j', Step j (.arrive (.ofRead pipe r)) j' := by
  cases r with
  | error cause => exact ⟨_, .error pipe cause hfailure hwaits⟩
  | data bytes =>
      by_cases hbytes : bytes = []
      · subst hbytes
        exact ⟨_, .close pipe hfailure hwaits⟩
      · exact ⟨_, .read pipe bytes hfailure hwaits hbytes⟩

/-- An open pipe has something to give. -/
theorem Tracks.exists_next
    (h : Tracks arrivals j) (hsends : child.Sends arrivals)
    (hfailure : j.failure = none) (hopen : (j.branch pipe).isOpen = true) :
    ∃ r, readsOf pipe arrivals ++ [r] <+: (child.source pipe).reads := by
  obtain ⟨more, hmore⟩ := hsends.reads pipe
  cases more with
  | cons r more =>
      refine ⟨r, more, ?_⟩
      rw [← hmore, List.append_assoc, List.singleton_append]
  | nil =>
      -- All that the pipe gives was read, so its last read stopped the branch.
      have hmem : (child.source pipe).stop ∈ readsOf pipe arrivals := by
        rw [List.append_nil] at hmore
        rw [hmore]
        exact List.mem_append_right _ List.mem_cons_self
      unfold Source.stop at hmem
      split at hmem
      · exact absurd hmem ((h.isOpen pipe).mp hopen)
      · exact absurd hmem (h.noFailure hfailure pipe _)

/-- As long as there is no result, one of the branches can go on. -/
theorem Tracks.exists_step
    (h : Tracks (arrivalsOf events) j) (hsends : child.Sends (arrivalsOf events))
    (hresult : j.result? = none) :
    ∃ event j', Step j event j' ∧ child.Sends (arrivalsOf (events ++ [event])) := by
  unfold Joined.result? at hresult
  split at hresult
  · cases hresult
  next hfailure =>
  by_cases hpending : ∃ pipe, (j.branch pipe).pending ≠ []
  · obtain ⟨pipe, hne⟩ := hpending
    obtain ⟨event, j', hstep, hnone⟩ := exists_offer_step hfailure hne
    refine ⟨event, j', hstep, ?_⟩
    rwa [arrivalsOf_append, hnone, List.append_nil]
  · have hidle (pipe : Pipe) : (j.branch pipe).pending = [] := by
      by_contra hne
      exact hpending ⟨pipe, hne⟩
    by_cases hopen : ∃ pipe, (j.branch pipe).isOpen = true
    · obtain ⟨pipe, hopen⟩ := hopen
      obtain ⟨r, hnext⟩ := h.exists_next hsends hfailure hopen
      obtain ⟨j', hstep⟩ := exists_read_step hfailure ⟨hopen, hidle pipe⟩ r
      refine ⟨_, j', hstep, ?_⟩
      rw [arrivalsOf_append]
      exact hsends.ofRead hnext
    · have hclosed (pipe : Pipe) : (j.branch pipe).isOpen = false := by
        rw [Bool.eq_false_iff]
        exact fun hopen' => hopen ⟨pipe, hopen'⟩
      rw [hclosed, hclosed, if_neg (by decide), Option.map_eq_none_iff] at hresult
      have hnone : statusesOf (arrivalsOf events) = [] := by
        rw [← List.head?_eq_none_iff, ← h.status, hresult]
      refine ⟨_, _, .exit child.status hfailure hresult, ?_⟩
      rw [arrivalsOf_append]
      exact hsends.exit hnone

theorem Tracks.captured_prefix
    (h : Tracks arrivals j) (hsends : child.Sends arrivals) (pipe : Pipe) :
    (j.branch pipe).drain.captured <+: (child.source pipe).bytes := by
  rw [h.captured]
  exact Source.bytes_prefix_of_reads_prefix (hsends.reads pipe)

theorem Steps.length_le_stepBound
    (h : Steps (.start echo sink) events j) (hsends : child.Sends (arrivalsOf events)) :
    events.length ≤ child.stepBound := by
  have hlength := h.length_le
  have harrivals := length_eq_readsOf_add_statusesOf (arrivalsOf events)
  have hreadsOut := (hsends.reads .stdout).length_le
  have hreadsErr := (hsends.reads .stderr).length_le
  have hstatuses := hsends.statuses.length_le
  have hout := (h.tracks.captured_prefix hsends .stdout).length_le
  have herr := (h.tracks.captured_prefix hsends .stderr).length_le
  rw [List.length_singleton] at hstatuses
  unfold Joined.capturedBytes at hlength
  unfold Child.stepBound
  omega

theorem Steps.shownOf_prefix
    (h : Steps (.start echo sink) events j) (hsends : child.Sends (arrivalsOf events))
    (pipe : Pipe) : shownOf pipe events <+: (child.source pipe).bytes := by
  have hfront := (h.shows pipe).front
  have hcaptured := h.tracks.captured_prefix hsends pipe
  exact ((List.prefix_append _ _).trans hfront).trans hcaptured

/-- All of a pipe is shown if no offer of its bytes was refused, whatever became of the other. -/
theorem Steps.shownOf_eq
    (h : Steps (.start echo sink) events j) (hsends : child.Sends (arrivalsOf events))
    (hecho : echo = true) (hrefused : .refused pipe ∉ events)
    (hclosed : (j.branch pipe).isOpen = false) :
    shownOf pipe events = (child.source pipe).bytes := by
  have hshows := h.shows pipe
  have hechoing : (j.branch pipe).drain.echoing = true := by
    by_contra hnot
    exact hrefused (hshows.givenUp (Bool.eq_false_iff.mpr hnot) hecho)
  have hwhole := hshows.whole hechoing
  rw [hshows.closed hclosed, List.append_nil, (h.tracks.closed hsends hclosed).2] at hwhole
  exact hwhole

/-! ## The collection -/

/-- One of the two streams of a collection. -/
def Collector.channel (c : Collector) : Pipe → Channel
  | .stdout => c.stdout
  | .stderr => c.stderr

/-- The branches between two arrivals, when everything was offered. -/
def Joined.ofCollector (c : Collector) : Joined where
  branch pipe := ⟨(c.channel pipe).drain, [], (c.channel pipe).isOpen⟩
  status := c.status
  failure := none
  sink := c.sink

theorem Joined.result?_ofCollector (c : Collector) :
    (Joined.ofCollector c).result? = c.output?.map .ok := by
  unfold result? Collector.output?
  simp only [ofCollector, Collector.channel]
  by_cases hopen : (c.stdout.isOpen || c.stderr.isOpen) = true
  · simp only [hopen, if_true, Option.map_none]
  · simp only [hopen, Bool.false_eq_true, if_false, Option.map_map]
    rfl

/-- The branch when all that it read was offered, or the writer failed. -/
def Branch.settle (b : Branch) (complete : Bool) : Branch :=
  ⟨⟨b.drain.captured, complete⟩, [], b.isOpen⟩

theorem Branch.settle_self {b : Branch} (hpending : b.pending = []) :
    b.settle b.drain.echoing = b := by
  unfold settle
  rw [← hpending]

theorem Sink.after_nothing (sink : Sink) : sink.after ⟨[], 0, true⟩ = sink := by
  simp [Sink.after]

theorem Sink.after_after (sink : Sink) (o o' : Offered) :
    (sink.after o).after o' =
      sink.after ⟨o.taken ++ o'.taken, o.calls + o'.calls, o'.complete⟩ := by
  simp [Sink.after, Nat.add_assoc]

section

variable {w : Writer} {calls : Nat} {bytes : List UInt8}

theorem refused_steps {byte : UInt8} {more : List UInt8}
    (hwriter : j.sink.writer = w) (hcalls : j.sink.writes = calls)
    (hpending : (j.branch pipe).pending = byte :: more) (hfailure : j.failure = none)
    (h : w.accept (calls + 1) (byte :: more) = none ∨
      w.accept (calls + 1) (byte :: more) = some 0) :
    Steps j [.refused pipe]
      (j.update pipe ((j.branch pipe).settle (w.offerAll calls (byte :: more)).complete)
        (j.sink.after (w.offerAll calls (byte :: more)))) := by
  rw [Writer.offerAll_of_refused h]
  have hne : (j.branch pipe).pending ≠ [] := by simp [hpending]
  rw [← hwriter, ← hcalls, ← hpending] at h
  exact (Step.refused pipe hfailure hne h).steps

/-- All that a branch read is offered in as many steps as the writer needs. -/
theorem exists_offer_steps
    (hwriter : j.sink.writer = w) (hcalls : j.sink.writes = calls)
    (hpending : (j.branch pipe).pending = bytes) (hfailure : j.failure = none)
    (hechoing : (j.branch pipe).drain.echoing = true) :
    ∃ events, arrivalsOf events = [] ∧
      Steps j events
        (j.update pipe ((j.branch pipe).settle (w.offerAll calls bytes).complete)
          (j.sink.after (w.offerAll calls bytes))) := by
  induction calls, bytes using Writer.offerAll.induct w generalizing j with
  | case1 calls =>
      have hoffered : w.offerAll calls [] = ⟨[], 0, true⟩ := by rw [Writer.offerAll]
      have hsettled : (j.branch pipe).settle true = j.branch pipe := by
        rw [← hechoing, Branch.settle_self hpending]
      refine ⟨[], rfl, ?_⟩
      rw [hoffered, Sink.after_nothing, hsettled, Joined.update_self]
      exact .refl
  | case2 calls byte more haccept =>
      exact ⟨_, rfl, refused_steps hwriter hcalls hpending hfailure (.inl haccept)⟩
  | case3 calls byte more haccept =>
      exact ⟨_, rfl, refused_steps hwriter hcalls hpending hfailure (.inr haccept)⟩
  | case4 calls byte more count haccept ih =>
      have hne : (j.branch pipe).pending ≠ [] := by simp [hpending]
      have hstep := Step.shown pipe count hfailure hne
        (by rw [hwriter, hcalls, hpending]; exact haccept)
      obtain ⟨events, hnone, hsteps⟩ :=
        ih (j := j.update pipe ((j.branch pipe).advance (count + 1))
            (j.sink.after ⟨(j.branch pipe).pending.take (count + 1), 1, true⟩))
          hwriter (by rw [← hcalls]; rfl) (by simp [Branch.advance, hpending]) hfailure
          (by simp [Branch.advance, hechoing])
      have hall := hstep.steps.append hsteps
      rw [Joined.update_update, Joined.update_branch_self, Joined.update_sink, Sink.after_after,
        hpending] at hall
      refine ⟨.shown pipe ((byte :: more).take (count + 1)) :: events, hnone, ?_⟩
      rw [Writer.offerAll_of_taken haccept,
        Nat.add_comm (w.offerAll (calls + 1) (more.drop count)).calls 1]
      exact hall

end

/-- A collection, of which one stream and the writer are replaced. -/
def Collector.setChannel (c : Collector) : Pipe → Channel → Sink → Collector
  | .stdout, stdout, sink => { c with stdout, sink }
  | .stderr, stderr, sink => { c with stderr, sink }

theorem Joined.ofCollector_setChannel (c : Collector) (channel : Channel) (sink : Sink) :
    Joined.ofCollector (c.setChannel pipe channel sink) =
      (Joined.ofCollector c).update pipe ⟨channel.drain, [], channel.isOpen⟩ sink := by
  have hbranch :
      (Joined.ofCollector (c.setChannel pipe channel sink)).branch =
        Function.update (Joined.ofCollector c).branch pipe
          ⟨channel.drain, [], channel.isOpen⟩ := by
    funext other
    cases pipe <;> cases other <;> rfl
  cases pipe with
  | stdout => simp only [ofCollector, Collector.setChannel, update] at hbranch ⊢; rw [hbranch]
  | stderr => simp only [ofCollector, Collector.setChannel, update] at hbranch ⊢; rw [hbranch]

theorem Joined.start_eq_ofCollector (echo : Bool) (sink : Sink) :
    Joined.start echo sink = .ofCollector (.fresh echo sink) := by
  have hbranch : (Joined.start echo sink).branch =
      (Joined.ofCollector (.fresh echo sink)).branch := by
    funext pipe
    cases pipe <;> rfl
  simp only [start, ofCollector, Collector.fresh] at hbranch ⊢
  rw [hbranch]

theorem Collector.receive_ofRead (c : Collector) (pipe : Pipe) (r : Read) :
    c.receive (.ofRead pipe r) =
      ((c.channel pipe).receive c.sink r).map fun next => c.setChannel pipe next.1 next.2 := by
  cases pipe with
  | stdout =>
      simp only [Arrival.ofRead, receive, channel]
      cases c.stdout.receive c.sink r <;> rfl
  | stderr =>
      simp only [Arrival.ofRead, receive, channel]
      cases c.stderr.receive c.sink r <;> rfl

/-- The steps that stand for a collection. -/
def Simulates (j : Joined) (arrivals : List Arrival) : Except SystemError Collector → Prop
  | .ok c => ∃ events, Steps j events (.ofCollector c) ∧ arrivalsOf events = arrivals
  | .error cause => ∃ events j',
      Steps j events j' ∧ arrivalsOf events <+: arrivals ∧ j'.failure = some cause

theorem simulates_take
    (hopen : (c.channel pipe).isOpen = true) {bytes : List UInt8} (hbytes : bytes ≠ []) :
    let next := (c.channel pipe).drain.take c.sink bytes
    Simulates (.ofCollector c) [.ofRead pipe (.data bytes)]
      (.ok (c.setChannel pipe ⟨next.1, true⟩ next.2)) := by
  have hwaits : ((Joined.ofCollector c).branch pipe).Waits := ⟨hopen, rfl⟩
  have hread := (Step.read pipe bytes rfl hwaits hbytes).steps
  unfold Drain.take
  cases hechoing : (c.channel pipe).drain.echoing with
  | false =>
      refine ⟨[.arrive (.ofRead pipe (.data bytes))], ?_, rfl⟩
      rw [Joined.ofCollector_setChannel]
      simpa [Branch.take, Joined.ofCollector, hechoing] using hread
  | true =>
      have hpending :
          (((Joined.ofCollector c).update pipe (((Joined.ofCollector c).branch pipe).take bytes)
            c.sink).branch pipe).pending = bytes := by
        simp [Branch.take, Joined.ofCollector, hechoing]
      obtain ⟨events, hnone, hoffered⟩ :=
        exists_offer_steps rfl rfl hpending rfl (by rw [Joined.update_branch_self]; exact hechoing)
      have hall := hread.append hoffered
      rw [Joined.update_update, Joined.update_branch_self] at hall
      refine ⟨.arrive (.ofRead pipe (.data bytes)) :: events, ?_, congrArg (_ :: ·) hnone⟩
      rw [Joined.ofCollector_setChannel]
      exact hall

theorem simulates_receive_ofRead (hopen : (c.channel pipe).isOpen = true) (r : Read) :
    Simulates (.ofCollector c) [.ofRead pipe r] (c.receive (.ofRead pipe r)) := by
  have hwaits : ((Joined.ofCollector c).branch pipe).Waits := ⟨hopen, rfl⟩
  rw [Collector.receive_ofRead]
  cases r with
  | error cause =>
      rw [Channel.receive, if_pos hopen]
      exact ⟨_, _, (Step.error pipe cause rfl hwaits).steps, List.prefix_refl _, rfl⟩
  | data bytes =>
      rw [Channel.receive, if_neg (by simp [hopen])]
      by_cases hbytes : bytes = []
      · subst hbytes
        refine ⟨[.arrive (.ofRead pipe (.data []))], ?_, rfl⟩
        rw [Joined.ofCollector_setChannel]
        exact (Step.close pipe rfl hwaits).steps
      · rw [if_neg (by simpa using hbytes)]
        exact simulates_take hopen hbytes

theorem simulates_receive_exit (hstatus : c.status = none) (status : Status) :
    Simulates (.ofCollector c) [.exit status] (c.receive (.exit status)) := by
  have hstep := Step.exit (j := .ofCollector c) status rfl hstatus
  have hreceive : c.receive (.exit status) = .ok { c with status := some status } := by
    rw [Collector.receive, hstatus]
    rfl
  rw [hreceive]
  exact ⟨_, hstep.steps, rfl⟩

theorem Simulates.concat {result : Except SystemError Collector}
    (h : Simulates j arrivals result)
    (hnext : ∀ c, result = .ok c → Simulates (.ofCollector c) [arrival] (c.receive arrival)) :
    Simulates j (arrivals ++ [arrival]) (result.bind fun c => c.receive arrival) := by
  cases result with
  | error cause =>
      obtain ⟨events, j', hsteps, hfront, hfailure⟩ := h
      exact ⟨events, j', hsteps, hfront.trans (List.prefix_append _ _), hfailure⟩
  | ok c =>
      obtain ⟨events, hsteps, rfl⟩ := h
      have hreceive := hnext c rfl
      rw [Except.bind]
      cases hresult : c.receive arrival with
      | error cause =>
          rw [hresult] at hreceive
          obtain ⟨events', j', hsteps', hfront, hfailure⟩ := hreceive
          refine ⟨events ++ events', j', hsteps.append hsteps', ?_, hfailure⟩
          rw [arrivalsOf_append]
          exact (List.prefix_append_right_inj _).mpr hfront
      | ok c' =>
          rw [hresult] at hreceive
          obtain ⟨events', hsteps', harrivals⟩ := hreceive
          refine ⟨events ++ events', hsteps.append hsteps', ?_⟩
          rw [arrivalsOf_append, harrivals]

theorem collect_concat (echo : Bool) (sink : Sink) (arrivals : List Arrival) (arrival : Arrival) :
    collect echo sink (arrivals ++ [arrival]) =
      (collect echo sink arrivals).bind fun c => c.receive arrival := by
  unfold collect
  rw [List.foldlM_append]
  simp only [List.foldlM_cons, List.foldlM_nil, bind_pure]
  rfl

/-- Nothing more arrives from a pipe that has ended. -/
theorem Tracks.isOpen_of_next
    (h : Tracks arrivals j) (hsends : child.Sends (arrivals ++ [.ofRead pipe r])) :
    (j.branch pipe).isOpen = true := by
  have hnext := hsends.reads pipe
  rw [readsOf_append, readsOf_ofRead_self] at hnext
  rw [h.isOpen]
  intro hmem
  obtain ⟨hall, -⟩ :=
    Source.eq_reads_of_not_isPiece ((List.prefix_append _ _).trans hnext) hmem rfl
  have hlength := hnext.length_le
  rw [hall, List.length_append, List.length_singleton] at hlength
  omega

/-- A program ends once. -/
theorem Tracks.status_of_next {status : Status}
    (h : Tracks arrivals j) (hsends : child.Sends (arrivals ++ [.exit status])) :
    j.status = none := by
  have hlength := hsends.statuses.length_le
  rw [statusesOf_append, statusesOf_exit, List.length_append, List.length_singleton,
    List.length_singleton] at hlength
  rw [h.status, List.head?_eq_none_iff, ← List.length_eq_zero_iff]
  omega

theorem simulates_collect (echo : Bool) (sink : Sink) (hsends : child.Sends arrivals) :
    Simulates (.start echo sink) arrivals (collect echo sink arrivals) := by
  induction arrivals using List.reverseRecOn with
  | nil =>
      rw [Joined.start_eq_ofCollector]
      exact ⟨[], .refl, rfl⟩
  | append_singleton arrivals arrival ih =>
      have hbefore := ih hsends.of_append
      rw [collect_concat]
      apply hbefore.concat
      intro c hcollect
      rw [hcollect] at hbefore
      obtain ⟨events, hsteps, harrivals⟩ := hbefore
      have htracks := hsteps.tracks
      rw [harrivals] at htracks
      cases arrival with
      | stdout r =>
          have hopen : (c.channel .stdout).isOpen = true := htracks.isOpen_of_next hsends
          exact simulates_receive_ofRead hopen r
      | stderr r =>
          have hopen : (c.channel .stderr).isOpen = true := htracks.isOpen_of_next hsends
          exact simulates_receive_ofRead hopen r
      | exit status => exact simulates_receive_exit (htracks.status_of_next hsends) status

theorem Child.Sends.of_prefix {before : List Arrival} (h : child.Sends arrivals)
    (hfront : before <+: arrivals) : child.Sends before := by
  obtain ⟨more, rfl⟩ := hfront
  exact h.of_append

theorem collect_finishes (h : child.Finishes arrivals)
    (hok : ∀ pipe, (child.source pipe).failure = none) :
    ∃ c events, collect echo sink arrivals = .ok c ∧ c.output? = some child.output ∧
      Steps (.start echo sink) events (.ofCollector c) ∧ arrivalsOf events = arrivals := by
  have hsimulates := simulates_collect echo sink h.sends
  cases hcollect : collect echo sink arrivals with
  | error cause =>
      rw [hcollect] at hsimulates
      obtain ⟨events, j, hsteps, hfront, hfailure⟩ := hsimulates
      obtain ⟨pipe, hsome⟩ := hsteps.tracks.failure_eq (h.sends.of_prefix hfront) hfailure
      rw [hok pipe] at hsome
      cases hsome
  | ok c =>
      rw [hcollect] at hsimulates
      obtain ⟨events, hsteps, harrivals⟩ := hsimulates
      have htracks := hsteps.tracks
      rw [harrivals] at htracks
      have hclosed (pipe : Pipe) : (c.channel pipe).isOpen = false := by
        rw [Bool.eq_false_iff]
        intro hopen
        apply (htracks.isOpen pipe).mp hopen
        rw [h.reads, Source.reads, Source.stop, hok]
        exact List.mem_append_right _ List.mem_cons_self
      have hstatus : c.status = some child.status := by
        have hhead := htracks.status
        rw [h.statuses] at hhead
        exact hhead
      have hout : c.stdout.isOpen = false := hclosed .stdout
      have herr : c.stderr.isOpen = false := hclosed .stderr
      obtain ⟨output, houtput⟩ : ∃ output, c.output? = some output := by
        rw [Collector.output?, hout, herr, hstatus]
        exact ⟨_, rfl⟩
      have hresult : (Joined.ofCollector c).result? = some (.ok output) := by
        rw [Joined.result?_ofCollector, houtput]
        rfl
      obtain ⟨-, rfl⟩ := htracks.endsWith h.sends hresult
      exact ⟨c, events, rfl, houtput, hsteps, harrivals⟩

theorem collect_eq_error (hsends : child.Sends arrivals)
    (hmem : .error cause ∈ readsOf pipe arrivals) :
    ∃ pipe cause, (child.source pipe).failure = some cause ∧
      collect echo sink arrivals = .error cause := by
  have hsimulates := simulates_collect echo sink hsends
  cases hcollect : collect echo sink arrivals with
  | error cause =>
      rw [hcollect] at hsimulates
      obtain ⟨events, j, hsteps, hfront, hfailure⟩ := hsimulates
      obtain ⟨pipe, hsome⟩ := hsteps.tracks.failure_eq (hsends.of_prefix hfront) hfailure
      exact ⟨pipe, cause, hsome, rfl⟩
  | ok c =>
      rw [hcollect] at hsimulates
      obtain ⟨events, hsteps, harrivals⟩ := hsimulates
      have hnone := hsteps.tracks.noFailure rfl pipe cause
      rw [harrivals] at hnone
      exact absurd hmem hnone

/-- The pipes of a program never mix or reorder.  The output of a program is its exit code, or -1
if it was stopped by a signal, and the text of each pipe.  Whatever order the steps take, a result
is that output or the error of a read that failed, what the writer takes is made of the fronts of
what the pipes give, all of a pipe is shown if none of its own offers is refused, and the steps go
on until there is a result.  A collection is one of these orders, so whatever the order of arrival
it comes to that output, or to an error if one arrives. -/
theorem pipes_stay_apart (child : Child) (echo : Bool) (sink : Sink) :
    (∀ code, child.status = .code code →
      child.output =
        ⟨code, decode (child.source .stdout).bytes, decode (child.source .stderr).bytes⟩) ∧
    (child.status = .signal →
      child.output =
        ⟨-1, decode (child.source .stdout).bytes, decode (child.source .stderr).bytes⟩) ∧
    (∀ events j, Steps (.start echo sink) events j → child.Sends (arrivalsOf events) →
      (∀ result, j.result? = some result → child.EndsWith result) ∧
      ((∃ pipe cause, .error cause ∈ readsOf pipe (arrivalsOf events)) →
        ∃ cause, j.result? = some (.error cause)) ∧
      (∃ merged, j.sink.accepted = sink.accepted ++ merged ∧
        Interleaves (shownOf .stdout events) (shownOf .stderr events) merged) ∧
      (∀ pipe, shownOf pipe events <+: (child.source pipe).bytes ∧
        (echo = false → shownOf pipe events = []) ∧
        (echo = true → .refused pipe ∉ events → (j.branch pipe).isOpen = false →
          shownOf pipe events = (child.source pipe).bytes)) ∧
      (j.result? = none →
        ∃ event j', Step j event j' ∧ child.Sends (arrivalsOf (events ++ [event]))) ∧
      events.length ≤ child.stepBound) ∧
    (∀ arrivals, child.Finishes arrivals → (∀ pipe, (child.source pipe).failure = none) →
      ∃ c events, collect echo sink arrivals = .ok c ∧ c.output? = some child.output ∧
        Steps (.start echo sink) events (.ofCollector c) ∧ arrivalsOf events = arrivals) ∧
    ∀ arrivals, child.Sends arrivals →
      (∃ pipe cause, .error cause ∈ readsOf pipe arrivals) →
        ∃ pipe cause, (child.source pipe).failure = some cause ∧
          collect echo sink arrivals = .error cause := by
  refine ⟨child.output_of_code, child.output_of_signal, ?_, ?_, ?_⟩
  · intro events j hsteps hsends
    refine ⟨?_, ?_, ?_, ?_, ?_, hsteps.length_le_stepBound hsends⟩
    · intro result hresult
      exact hsteps.tracks.endsWith hsends hresult
    · rintro ⟨pipe, cause, hmem⟩
      exact hsteps.tracks.exists_error hmem
    · exact ⟨_, hsteps.accepted, interleaves_shownOf events⟩
    · intro pipe
      refine ⟨hsteps.shownOf_prefix hsends pipe, ?_, hsteps.shownOf_eq hsends⟩
      intro hecho
      exact (List.append_eq_nil_iff.mp ((hsteps.shows pipe).silent hecho).1).1
    · exact hsteps.tracks.exists_step hsends
  · intro arrivals hfinishes hok
    exact collect_finishes hfinishes hok
  · rintro arrivals hsends ⟨pipe, cause, hmem⟩
    exact collect_eq_error hsends hmem

/-- A program that writes a character in two pieces. -/
def twoPieces (status : Status) : Child where
  source
    | .stdout => ⟨[[0xC3], [0xA9]], by decide, none⟩
    | .stderr => ⟨[[0x21]], by decide, none⟩
  status := status

/-- The program with a pipe that breaks. -/
def brokenChild : Child where
  source
    | .stdout => ⟨[[0xC3], [0xA9]], by decide, none⟩
    | .stderr => ⟨[], by decide, some ⟨.brokenPipe, "broken pipe"⟩⟩
  status := .signal

/-- The two pieces are put together although the exit comes first, the other pipe comes between
them, and the writer takes one byte at a time and fails in the end.  A program that was stopped
has the code -1, and one that ended by itself its own.  A pipe that breaks between the pieces
leaves nothing but the error. -/
theorem pipes_stay_apart_exit_first :
    (∃ c events,
      collect true (.ofWriter (.limited (some 1) (some 3) true))
        [.exit .signal, .stdout (.data [0xC3]), .stderr (.data [0x21]), .stderr (.data []),
          .stdout (.data [0xA9]), .stdout (.data [])] = .ok c ∧
        c.output? = some ⟨-1, "é", "!"⟩ ∧ shownOf .stdout events <+: [0xC3, 0xA9] ∧
        events.length ≤ 9) ∧
      (∃ c, collect false (.ofWriter .unlimited)
        [.stdout (.data [0xC3]), .exit (.code 3), .stderr (.data [0x21]),
          .stdout (.data [0xA9]), .stdout (.data []), .stderr (.data [])] = .ok c ∧
        c.output? = some ⟨3, "é", "!"⟩) ∧
      ∃ cause,
        collect true (.ofWriter .unlimited)
          [.stdout (.data [0xC3]), .stderr (.error ⟨.brokenPipe, "broken pipe"⟩)] =
            .error cause := by
  have hunbroken (status : Status) (pipe : Pipe) :
      ((twoPieces status).source pipe).failure = none := by
    cases pipe with
    | stdout => rfl
    | stderr => rfl
  have hstdout : decode [0xC3, 0xA9] = "é" := by decide +kernel
  have hstderr : decode [0x21] = "!" := by decide +kernel
  refine ⟨?_, ?_, ?_⟩
  · obtain ⟨-, hsignal, hsteps, hcollect, -⟩ :=
      pipes_stay_apart (twoPieces .signal) true (.ofWriter (.limited (some 1) (some 3) true))
    have hfinishes : (twoPieces .signal).Finishes
        [.exit .signal, .stdout (.data [0xC3]), .stderr (.data [0x21]), .stderr (.data []),
          .stdout (.data [0xA9]), .stdout (.data [])] :=
      ⟨fun pipe => by cases pipe <;> rfl, rfl⟩
    obtain ⟨c, events, hc, houtput, hevents, harrivals⟩ :=
      hcollect _ hfinishes (hunbroken .signal)
    have hall := hsteps events _ hevents (harrivals ▸ hfinishes.sends)
    obtain ⟨-, -, -, hshown, -, hlength⟩ := hall
    have htext : (twoPieces .signal).output = ⟨-1, "é", "!"⟩ := by
      rw [← hstdout, ← hstderr]
      exact hsignal rfl
    exact ⟨c, events, hc, htext ▸ houtput, (hshown .stdout).1, hlength⟩
  · obtain ⟨hcode, -, -, hcollect, -⟩ :=
      pipes_stay_apart (twoPieces (.code 3)) false (.ofWriter .unlimited)
    have hfinishes : (twoPieces (.code 3)).Finishes
        [.stdout (.data [0xC3]), .exit (.code 3), .stderr (.data [0x21]),
          .stdout (.data [0xA9]), .stdout (.data []), .stderr (.data [])] :=
      ⟨fun pipe => by cases pipe <;> rfl, rfl⟩
    obtain ⟨c, -, hc, houtput, -⟩ := hcollect _ hfinishes (hunbroken (.code 3))
    have htext : (twoPieces (.code 3)).output = ⟨3, "é", "!"⟩ := by
      rw [← hstdout, ← hstderr]
      exact hcode 3 rfl
    exact ⟨c, hc, htext ▸ houtput⟩
  · obtain ⟨-, -, -, -, herror⟩ := pipes_stay_apart brokenChild true (.ofWriter .unlimited)
    obtain ⟨-, cause, -, hcause⟩ :=
      herror [.stdout (.data [0xC3]), .stderr (.error ⟨.brokenPipe, "broken pipe"⟩)]
        ⟨fun pipe => by cases pipe <;> decide, by decide⟩
        ⟨.stderr, ⟨.brokenPipe, "broken pipe"⟩, by decide⟩
    exact ⟨cause, hcause⟩

end Tool
end MetricsScript
