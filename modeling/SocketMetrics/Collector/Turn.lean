import SocketMetrics.Collector.Loop
/-!
The collection loop over a host, which answers the questions, sleeps, runs the passes and keeps the
log. A turn asks one question and then does the one thing that is due: a slice of a sleep, or a pass
if there is nothing left to sleep. Whoever takes turns until one of them ends runs the loop.
-/

set_option autoImplicit false
set_option relaxedAutoImplicit false

namespace SocketMetrics.Collector

open Number

/-- What a collector can do to the world around it. -/
structure Host (m : Type → Type) where
  /-- Asks whether the parent is alive. -/
  ask : m Bool
  /-- Sleeps without interruption. -/
  sleep : Duration → m Unit
  /-- Runs a pass of a collector. -/
  pass : Collector → m Step
  /-- Adds records to the log. -/
  log : List Log.Record → m Unit

/-- What is ahead of a collector after a turn. -/
inductive Outlook where
  /-- The collector goes on, its next pass being due after the given time. -/
  | goesOn (collector : Collector) (remaining : Duration)
  /-- The collector stops. -/
  | ends (collector : Collector) (outcome : Except Fault Termination)

/-- The turn of a collector whose next pass is due after the given time. -/
def turn {m : Type → Type} [Monad m] (host : Host m) (collector : Collector)
    (remaining : Duration) : m Outlook := do
  if ← host.ask then
    if remaining.nanoseconds = 0 then
      let step ← host.pass collector
      host.log step.log
      match step.outcome with
      | .error fault => return .ends step.collector (.error fault)
      | .ok report =>
        host.log [passRecord step.collector.passes report]
        return .goesOn step.collector collector.interval
    else
      let slice : Duration := ⟨min remaining.nanoseconds longestSlice.nanoseconds⟩
      host.sleep slice
      return .goesOn collector ⟨remaining.nanoseconds - slice.nanoseconds⟩
  else
    host.log [collector.goneRecord]
    return .ends { collector with state := .terminated .parentGone } (.ok .parentGone)

end SocketMetrics.Collector
