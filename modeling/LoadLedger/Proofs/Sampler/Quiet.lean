import LoadLedger.Proofs.Faults
import LoadLedger.Sampler.Session

/-!
# A quiet sampler

While the clock stands still no sample falls due: a job is scheduled a period ahead of the clock,
and a thread that waits finds nothing to do but to end. So starting and stopping a sampler leave the
ledger alone (`SamplerSession.Quiet`). A sampler starts once: whether it was started before is kept
along with the ledger.

Ingestion and replays start and stop their sampler in the middle of other work. There `Quiet` is
what their own invariants need to know of it.
-/

namespace LoadLedger

/-- A job that recurs from now on runs in the future. -/
theorem Job.lt_nextRun_of_every [Scheduler] {now : Int} {seconds : Value} {job : Job}
    (h : Scheduler.every now seconds = .ok job) : now < job.nextRun :=
  ((Scheduler.every_eq_ok_iff now seconds job).mp h).2.lt.1

/-- A new sampler is as it says, whatever the interval. -/
theorem Sampler.eq_of_make {interval : Value} {sampler : Sampler}
    (h : Sampler.make interval = .ok sampler) :
    sampler =
      { interval
        jobs := []
        stopRequested := false
        thread := .unstarted
        givenUp := false
        ticks := 0 } := by
  rw [Sampler.make] at h
  obtain ⟨notPositive, -, h⟩ := bind_eq_ok.mp h
  cases notPositive with
  | false => exact (Except.ok.inj h).symm
  | true =>
    -- the interval is refused once it is shown
    obtain ⟨text, -, h⟩ := bind_eq_ok.mp h
    cases h

/-- A new sampler has no job and no thread. -/
theorem Sampler.make_ok {interval : Value} {sampler : Sampler}
    (h : Sampler.make interval = .ok sampler) :
    sampler.jobs = [] ∧ sampler.thread = .unstarted := by
  obtain rfl := Sampler.eq_of_make h
  exact ⟨rfl, rfl⟩

namespace SamplerSession

/-- The ledger is the given one, and nobody is about to sample it. If the sampler is meant to be
started, it is. -/
structure Quiet (ledger : Ledger) (started : Prop) (s : SamplerSession) : Prop where
  ledger : s.ledger = ledger
  /-- The thread is not about to. -/
  thread : s.sampler.thread ≠ .sampling
  started : started → s.sampler.thread ≠ .unstarted
  /-- No job is due. -/
  ahead : ∀ job ∈ s.sampler.jobs, s.now < job.nextRun

namespace Quiet

variable {ledger : Ledger} {started : Prop} {s : SamplerSession}

theorem not_isDue [Scheduler] (h : s.Quiet ledger started) : s.isDue = false := by
  rw [isDue, List.any_eq_false]
  intro job hjob
  have hahead := h.ahead job hjob
  rw [Scheduler.isDue_eq, decide_eq_true_eq]
  omega

/-- A thread that ends stays quiet. -/
theorem ended (h : s.Quiet ledger started) {sampler : Sampler} (hthread : sampler.thread = .ended)
    (hjobs : sampler.jobs ⊆ s.sampler.jobs) : Quiet ledger started { s with sampler } :=
  ⟨h.ledger, by rw [hthread]; exact SamplerThread.noConfusion,
    fun _ => by rw [hthread]; exact SamplerThread.noConfusion,
    fun job hjob => h.ahead job (hjobs hjob)⟩

/-- A sampler that is started may as well be meant to be. -/
theorem weaken (h : s.Quiet ledger True) : s.Quiet ledger started :=
  ⟨h.ledger, h.thread, fun _ => h.started trivial, h.ahead⟩

theorem record (h : s.Quiet ledger started) (r : LogRecord) : (s.record r).Quiet ledger started :=
  ⟨h.ledger, h.thread, h.started, h.ahead⟩

/-- A waiting thread goes on waiting or ends. -/
theorem leaveWait [Scheduler] (h : s.Quiet ledger started) : s.leaveWait.Quiet ledger started := by
  rw [SamplerSession.leaveWait]
  split
  · exact h.ended rfl (List.nil_subset _)
  · split
    · exact h.ended rfl (List.nil_subset _)
    · rw [h.not_isDue]
      split
      · exact h.ended rfl (List.Subset.refl _)
      · exact h

/-- A thread of a quiet session has nothing to do but to wait or to end. -/
theorem move [Scheduler] (h : s.Quiet ledger started) : s.move.Quiet ledger started := by
  rw [SamplerSession.move]
  split
  · exact h.leaveWait
  · rename_i hsampling
    exact absurd hsampling h.thread
  · exact h

theorem settle [Scheduler] (h : s.Quiet ledger started) : s.settle.Quiet ledger started :=
  h.move.move.move

/-! ## Starting and stopping -/

/-- A sampler that starts was not started before. It has one job more, and that lies ahead. -/
theorem ofStart [Scheduler] (h : s.Quiet ledger started) {sampler : Sampler}
    (hstart : s.sampler.start s.now = .ok sampler) :
    ¬started ∧ Quiet ledger True { s with sampler } := by
  rw [Sampler.start] at hstart
  split at hstart
  · rename_i hunstarted
    obtain ⟨job, hjob, hstart⟩ := bind_eq_ok.mp hstart
    cases hstart
    refine ⟨fun hstarted => h.started hstarted hunstarted, h.ledger, SamplerThread.noConfusion,
      fun _ => SamplerThread.noConfusion, fun other hother => ?_⟩
    rcases List.mem_append.mp hother with hold | hnew
    · exact h.ahead other hold
    · obtain rfl := List.mem_singleton.mp hnew
      exact Job.lt_nextRun_of_every hjob
  · cases hstart

/-- A start that succeeds is the first one. -/
theorem start_ok [Scheduler] (h : s.Quiet ledger started) (hok : s.start.1 = .ok ()) :
    ¬started ∧ s.start.2.Quiet ledger True := by
  rw [SamplerSession.start] at hok ⊢
  split at hok
  · cases hok
  · rename_i hstart
    obtain ⟨hfirst, hstarted⟩ := h.ofStart hstart
    split at hok
    · cases hok
    · exact ⟨hfirst, (hstarted.record _).settle⟩

/-- A start that fails may leave a thread behind, but no trace in the ledger. -/
theorem start_error [Scheduler] (h : s.Quiet ledger started) {cause : Fault}
    (herror : s.start.1 = .error cause) : s.start.2.Quiet ledger started := by
  rw [SamplerSession.start] at herror ⊢
  split at herror
  · exact h
  · rename_i hstart
    obtain ⟨-, hstarted⟩ := h.ofStart hstart
    split at herror
    · exact hstarted.settle.weaken
    · cases herror

theorem requestStop (h : s.Quiet ledger started) : s.requestStop.Quiet ledger started :=
  ⟨h.ledger, h.thread, h.started, h.ahead⟩

theorem recordStop (h : s.Quiet ledger started) : s.recordStop.Quiet ledger started :=
  h.record _

theorem await [Scheduler] (h : s.Quiet ledger started) (timeout : Timeout) :
    (s.await timeout).2.Quiet ledger started := by
  rw [SamplerSession.await]
  split
  · split
    · have hgiven : Quiet ledger started { s with sampler := s.sampler.giveUp } :=
        ⟨h.ledger, h.thread, h.started, h.ahead⟩
      exact hgiven.settle
    · exact h.settle.recordStop
    · exact h.recordStop.settle
  · exact h.settle.recordStop

/-- A stop leaves the ledger alone, whatever the timeout. -/
theorem stop [Scheduler] (h : s.Quiet ledger started) (timeout : Value) :
    (s.stop timeout).2.Quiet ledger started := by
  rw [SamplerSession.stop]
  split
  · exact h.requestStop
  · split
    · exact h.requestStop.settle
    · exact h.requestStop.await _

end Quiet

end SamplerSession

end LoadLedger
