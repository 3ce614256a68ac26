import SocketMetrics.Number.Duration
/-!
Sleeping under supervision. A watch is a list of answers to the question whether the parent is
alive; a watch with no answers left finds it gone. A sleep is cut into slices of at most a second,
and the watch is asked before each of them. `sleep_rest_length` says that a sleep only uses
answers up.
-/

set_option autoImplicit false
set_option relaxedAutoImplicit false

namespace SocketMetrics.Collector

open Number

/-- The answers that are still to come, and after them nothing but bad ones. -/
abbrev Watch := List Bool

/-- The watch that finds the parent alive so many times. -/
def Watch.alive (times : Nat) : Watch :=
  List.replicate times true

/-- Something that a collector does between its writes. -/
inductive Action where
  /-- It asks whether the parent is alive. -/
  | asked (alive : Bool)
  /-- It sleeps without interruption. -/
  | slept (slice : Duration)
  /-- It begins a pass. -/
  | began
deriving DecidableEq, Repr

/-- The longest slice of a sleep. -/
def longestSlice : Duration := .ofSeconds 1

/-- What happens in a sleep. -/
structure Sleep where
  actions : List Action
  /-- The watch after a complete sleep; nothing if the parent was found gone. -/
  rest : Option Watch
deriving DecidableEq, Repr

/-- Sleeps for the given time, as long as the parent is alive. -/
def sleep (remaining : Duration) (watch : Watch) : Sleep :=
  if remaining.nanoseconds = 0 then ⟨[], some watch⟩
  else match watch with
    | true :: later =>
      let slice : Duration := ⟨min remaining.nanoseconds longestSlice.nanoseconds⟩
      let others := sleep ⟨remaining.nanoseconds - slice.nanoseconds⟩ later
      ⟨.asked true :: .slept slice :: others.actions, others.rest⟩
    | _ => ⟨[.asked false], none⟩

/-- A sleep leaves no more answers than it found. -/
theorem sleep_rest_length {remaining : Duration} {watch rest : Watch}
    (h : (sleep remaining watch).rest = some rest) : rest.length ≤ watch.length := by
  induction watch generalizing remaining with
  | nil =>
    unfold sleep at h
    split at h <;> simp_all
  | cons alive later ih =>
    unfold sleep at h
    split at h
    · simp_all
    · split at h
      · rename_i heq
        simp only [List.cons.injEq] at heq
        obtain ⟨rfl, rfl⟩ := heq
        exact Nat.le_succ_of_le (ih h)
      · simp at h

end SocketMetrics.Collector
