import ValidatorSigner.Protection.Parameters

/-! # The schedule of pruning

A background task prunes once in every period, and at once if it is to prune at boot. Calls are
due on a grid of times. A call that begins at most five milliseconds late keeps the grid; a later
one moves it. A call never begins before the one before it has ended, and whether a call fails has
no influence on the next one.

Times are counted in nanoseconds from the start of the task.
-/
namespace ValidatorSigner.Protection

structure Timetable where
  period : Nat
  first : Nat
  period_pos : 0 < period

namespace Timetable

/-- How late a call may begin without moving the grid. -/
def tolerance : Nat := (Duration.ofMilliseconds 5).nanoseconds

/-- When a call begins that was due at `due`, the task being free from `free` on. -/
def beginning (due free : Nat) : Nat := max due free

def nextDue (table : Timetable) (due begun : Nat) : Nat :=
  if begun ≤ due + tolerance then due + table.period else begun + table.period

theorem lt_nextDue (table : Timetable) {due begun : Nat} (h : due ≤ begun) :
    due < table.nextDue due begun := by
  have := table.period_pos
  unfold nextDue
  split <;> omega

end Timetable

structure Agenda where
  due : Nat
  /-- When the last call ends or has ended. -/
  free : Nat := 0
  calls : Nat := 0

namespace Agenda

/-- The calls that begin up to a time, and where the task stands then. The length of each call is
given by its number. -/
def runUntil (table : Timetable) (length : Nat → Nat) (time : Nat) (agenda : Agenda) :
    List Nat × Agenda :=
  let begun := Timetable.beginning agenda.due agenda.free
  if begun ≤ time then
    let (times, last) := runUntil table length time
      ⟨table.nextDue agenda.due begun, begun + length agenda.calls, agenda.calls + 1⟩
    (begun :: times, last)
  else ([], agenda)
termination_by time + 1 - agenda.due
decreasing_by
  -- Each call is due later than the one before it.
  rename_i h
  have hb : agenda.due ≤ begun := Nat.le_max_left ..
  have := table.lt_nextDue hb
  have : begun ≤ time := h
  change time + 1 - table.nextDue agenda.due begun < time + 1 - agenda.due
  omega

end Agenda

structure PruningTask where
  /-- When calls are due; none if the period is empty, since then there is no grid. -/
  table? : Option Timetable
  retention : Retention
  agenda : Agenda
  now : Nat := 0
  /-- Whether the task was told to stop. -/
  stopping : Bool := false

namespace PruningTask

/-- The task for some parameters; none if pruning is disabled. -/
def ofParameters? (p : PruningParameters) : Option PruningTask :=
  if !p.enabled then none
  else
    let period := p.interval.nanoseconds
    let first := if p.atBoot then 0 else period
    some
      { table? := if h : 0 < period then some ⟨period, first, h⟩ else none
        retention := p.retention
        agenda := { due := first } }

/-- Lets time pass. Gives the times at which calls begin; a task that was told to stop begins no
more of them. -/
def advance (task : PruningTask) (length : Nat → Nat) (span : Duration) :
    List Nat × PruningTask :=
  let now := task.now + span.nanoseconds
  match task.stopping, task.table? with
  | false, some table =>
    let (times, agenda) := task.agenda.runUntil table length now
    (times, { task with now, agenda })
  | _, _ => ([], { task with now })

def stop (task : PruningTask) : PruningTask := { task with stopping := true }

/-- Whether the task has ended. Without a grid it ends as soon as it has begun. -/
def hasEnded (task : PruningTask) : Bool :=
  task.table?.isNone || (task.stopping && task.agenda.free ≤ task.now)

end PruningTask
end ValidatorSigner.Protection
