import LoadLedger.Sampler.Session

/-!
# Scripted runs of a sampler

A run in which a script stands in for the passing of time: each entry says what happens during one
wait of the thread. The answer is the trace of the waits and the state at the end. Where the script
ends, the wait for the next entry ends the run.
-/

namespace LoadLedger

/-- What happens during a wait. -/
structure ScriptedWait where
  records : List Value
  /-- By how much the clock moves; by the time asked for if nothing else is said. -/
  advance : Option Value
  clear : Bool
  stop : Bool
  /-- Does the wait end since the thread is asked to stop? -/
  wake : Bool

/-- What is seen at the beginning of a wait. -/
structure WaitTrace where
  idle : Float
  ticks : Nat
  requests : List Nat

namespace SamplerSession

/-- What a wait sees. -/
def traceOf (s : SamplerSession) (idle : Int) : WaitTrace :=
  { idle := Micros.toSeconds idle
    ticks := s.sampler.ticks
    requests := s.ledger.windowHistory.requests }

/-- Carries out a wait. -/
def during [Depths] (s : SamplerSession) (idle : Int) (w : ScriptedWait) :
    Except Fault Unit × SamplerSession :=
  match s.merge w.records with
  | (.error cause, s) => (.error cause, s)
  | (.ok (), s) =>
    match s.momentAfter (w.advance.getD (.float (Micros.toSeconds idle))) with
    | .error cause => (.error cause, s)
    | .ok now =>
      (.ok (), { s with
        now
        sampler := { s.sampler with
          jobs := if w.clear then [] else s.sampler.jobs
          stopRequested := s.sampler.stopRequested || w.stop } })

/-- The end of the thread. -/
def finish (s : SamplerSession) : SamplerSession :=
  { s with sampler := s.sampler.finish }

section Loop

variable [Scheduler]

/- The passing of time is left open: what stands in for a wait, what happens to the session
meanwhile, and whether the wait ends since the thread is asked to stop. -/
variable {ω : Type} (during : SamplerSession → Int → ω → Except Fault Unit × SamplerSession)
  (wakes : ω → Bool)

/-- The passes of the thread, at most `fuel` of them. Answers the trace of the waits. -/
def followFor : Nat → List ω → SamplerSession → List WaitTrace × SamplerSession
  | 0, _, s => ([], s)
  | fuel + 1, waits, s =>
    if s.sampler.thread = .ended then ([], s)
    else if s.sampler.stopRequested then ([], s.finish)
    else match Scheduler.idle? s.now s.sampler.jobs with
      | none => ([], s.finish)
      | some idle =>
        if idle ≤ 0 then followFor fuel waits s.runDue
        else
          let seen := s.traceOf idle
          match waits with
          | [] => ([seen], s.finish)
          | w :: waits =>
            match during s idle w with
            | (.error _, s) => ([seen], { s with sampler := s.sampler.die })
            | (.ok (), s) =>
              if wakes w then ([seen], s.finish)
              else
                let (trace, s) := followFor fuel waits s.runDue
                (seen :: trace, s)

/-- The thread runs to its end. A pass waits, but for one that finds a job overdue and makes it wait
for the next pass. -/
def follow (waits : List ω) (s : SamplerSession) : List WaitTrace × SamplerSession :=
  followFor during wakes (2 * waits.length + 2) waits s

end Loop

/-- A whole run: starts the sampler and follows the script. -/
def runScript [Depths] [Scheduler] (interval : Value) (waits : List ScriptedWait) :
    Except Fault (List WaitTrace × SamplerSession) := do
  let s ← make interval
  let sampler ← s.sampler.start s.now
  return follow during ScriptedWait.wake waits { s with sampler }

end SamplerSession

end LoadLedger
