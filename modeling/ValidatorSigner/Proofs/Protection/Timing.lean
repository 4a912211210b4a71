import Mathlib.Order.Monotone.Basic
import ValidatorSigner.Protection.Schedule

/-! # When pruning calls begin

Which calls begin, and when, depends on nothing but the lengths of the calls and the time at which the task is
told to stop. It does not matter in which portions the time passes.
-/
namespace ValidatorSigner.Protection

namespace Timetable

def ofParameters (p : PruningParameters) (hp : 0 < p.interval.nanoseconds) : Timetable :=
  ⟨p.interval.nanoseconds, if p.atBoot then 0 else p.interval.nanoseconds, hp⟩

variable (table : Timetable) (length : Nat → Nat)

def standing : Nat → Agenda
  | 0 => { due := table.first }
  | k + 1 =>
    let before := standing k
    let begun := beginning before.due before.free
    ⟨table.nextDue before.due begun, begun + length k, k + 1⟩

def dueAt (k : Nat) : Nat := (table.standing length k).due

def begunAt (k : Nat) : Nat := beginning (table.standing length k).due (table.standing length k).free

theorem standing_calls (k : Nat) : (table.standing length k).calls = k := by
  cases k with
  | zero => rfl
  | succ k => rfl

theorem standing_succ (k : Nat) :
    table.standing length (k + 1) =
      ⟨table.nextDue (table.dueAt length k) (table.begunAt length k), table.begunAt length k + length k, k + 1⟩ := rfl

theorem begunAt_zero : table.begunAt length 0 = table.dueAt length 0 := Nat.max_eq_left (Nat.zero_le _)

theorem begunAt_succ (k : Nat) :
    table.begunAt length (k + 1) = max (table.dueAt length (k + 1)) (table.begunAt length k + length k) := rfl

theorem dueAt_succ (k : Nat) :
    table.dueAt length (k + 1) =
      if table.begunAt length k ≤ table.dueAt length k + tolerance then table.dueAt length k + table.period
      else table.begunAt length k + table.period := rfl

theorem dueAt_le_begunAt (k : Nat) : table.dueAt length k ≤ table.begunAt length k := Nat.le_max_left _ _

theorem free_le_begunAt (k : Nat) : (table.standing length k).free ≤ table.begunAt length k := Nat.le_max_right _ _

/-- A call ends before the next one begins. -/
theorem ended_le_begunAt (k : Nat) : table.begunAt length k + length k ≤ table.begunAt length (k + 1) :=
  Nat.le_max_right _ _

theorem begunAt_monotone : Monotone (table.begunAt length) := by
  apply monotone_nat_of_le_succ
  intro k
  have hended := table.ended_le_begunAt length k
  omega

/-- Two calls are almost a period apart at least. -/
theorem period_le_gap (k : Nat) :
    table.begunAt length k + table.period ≤ table.begunAt length (k + 1) + tolerance := by
  have hdue := table.dueAt_le_begunAt length (k + 1)
  rw [dueAt_succ] at hdue
  split at hdue
  · omega
  · omega

/-- The last call has ended at a time exactly if all have. -/
theorem free_le_iff (n time : Nat) :
    (table.standing length n).free ≤ time ↔ ∀ k < n, table.begunAt length k + length k ≤ time := by
  induction n with
  | zero =>
    have hnone : (table.standing length 0).free = 0 := rfl
    simp [hnone]
  | succ n ih =>
    have hlast : (table.standing length (n + 1)).free = table.begunAt length n + length n := rfl
    rw [hlast]
    constructor
    · intro h k hk
      obtain rfl | hlt : k = n ∨ k < n := by omega
      · exact h
      · have hfree := table.free_le_begunAt length n
        exact ih.mp (by omega) k hlt
    · intro h
      exact h n (Nat.lt_succ_self n)

theorem runUntil_step (time k : Nat) :
    (table.standing length k).runUntil table length time =
      if table.begunAt length k ≤ time then
        let rest := (table.standing length (k + 1)).runUntil table length time
        (table.begunAt length k :: rest.1, rest.2)
      else ([], table.standing length k) := by
  rw [Agenda.runUntil, standing_calls]
  rfl

/-- The calls that begin up to a time, once some have begun. -/
theorem runUntil_standing (time k : Nat) :
    ∃ n, k ≤ n ∧ (∀ j, k ≤ j → (j < n ↔ table.begunAt length j ≤ time)) ∧
      (table.standing length k).runUntil table length time =
        ((List.range' k (n - k)).map (table.begunAt length), table.standing length n) := by
  -- Each call takes the due time closer to the end of the time that passes.
  generalize hleft : time + 1 - table.dueAt length k = left
  induction left using Nat.strong_induction_on generalizing k with
  | _ left ih =>
    have hdue := table.dueAt_le_begunAt length k
    rw [runUntil_step]
    by_cases hb : table.begunAt length k ≤ time
    · have hlater : table.dueAt length k < table.dueAt length (k + 1) := table.lt_nextDue hdue
      obtain ⟨n, hkn, hwithin, hrest⟩ := ih _ (by omega) (k + 1) rfl
      refine ⟨n, by omega, fun j hj => ?_, ?_⟩
      · obtain rfl | hlt : k = j ∨ k < j := by omega
        · exact iff_of_true (by omega) hb
        · exact hwithin j hlt
      · have hcount : n - k = n - (k + 1) + 1 := by omega
        rw [if_pos hb, hrest, hcount, List.range'_succ, List.map_cons]
    · refine ⟨k, Nat.le_refl k, fun j hj => iff_of_false (by omega) ?_, ?_⟩
      · have hmono := table.begunAt_monotone length hj
        omega
      · rw [if_neg hb, Nat.sub_self]
        rfl

end Timetable

inductive Signal where
  | sent (value : Bool)
  | dropped
deriving DecidableEq

inductive Occurrence where
  | pass (span : Duration)
  | stop (signal : Signal)

namespace Occurrence

def elapsed : List Occurrence → Nat
  | [] => 0
  | .pass span :: rest => span.nanoseconds + elapsed rest
  | .stop _ :: rest => elapsed rest

def heard? : List Occurrence → Option Nat
  | .pass span :: rest => some (span.nanoseconds + (heard? rest).getD 0)
  | _ => none

def stops : List Occurrence → Bool
  | [] => false
  | .pass _ :: rest => stops rest
  | .stop _ :: _ => true

end Occurrence

namespace PruningTask

def goOn (length : Nat → Nat) (task : PruningTask) : List Occurrence → List (Nat × Retention) × PruningTask
  | [] => ([], task)
  | .pass span :: rest =>
    let (times, task') := task.advance length span
    let (calls, last) := task'.goOn length rest
    (times.map (·, task.retention) ++ calls, last)
  | .stop _ :: rest => task.stop.goOn length rest

variable {table : Timetable} {length : Nat → Nat} {task : PruningTask}

/-- A task that was told to stop only waits for the call that is under way. -/
theorem goOn_stopping (hs : task.stopping = true) (events : List Occurrence) :
    task.goOn length events = ([], { task with now := task.now + Occurrence.elapsed events }) := by
  induction events generalizing task with
  | nil => rfl
  | cons event rest ih =>
    cases event with
    | stop signal =>
      have hstop : task.stop = task := by rw [stop, ← hs]
      simp only [goOn, Occurrence.elapsed, hstop]
      exact ih hs
    | pass span =>
      have hidle : task.advance length span = ([], { task with now := task.now + span.nanoseconds }) := by
        simp only [advance, hs]
      have hrest := @ih { task with now := task.now + span.nanoseconds } hs
      simp only [goOn, hidle, hrest, Occurrence.elapsed, Nat.add_assoc]
      rfl

structure At (table : Timetable) (length : Nat → Nat) (task : PruningTask) (n : Nat) : Prop where
  tabled : task.table? = some table
  agenda : task.agenda = table.standing length n
  running : task.stopping = false

theorem At.advance {n : Nat} (h : At table length task n) (span : Duration) :
    ∃ m, n ≤ m ∧ (∀ k, n ≤ k → (k < m ↔ table.begunAt length k ≤ task.now + span.nanoseconds)) ∧
      (task.advance length span).1 = (List.range' n (m - n)).map (table.begunAt length) ∧
      (task.advance length span).2 =
        { task with now := task.now + span.nanoseconds, agenda := table.standing length m } := by
  obtain ⟨m, hnm, hwithin, hrun⟩ := table.runUntil_standing length (task.now + span.nanoseconds) n
  refine ⟨m, hnm, hwithin, ?_, ?_⟩
  · simp only [PruningTask.advance, h.running, h.tabled, h.agenda, hrun]
  · simp only [PruningTask.advance, h.running, h.tabled, h.agenda, hrun]

theorem At.goOn {n : Nat} (h : At table length task n) (events : List Occurrence) :
    ∃ m, n ≤ m ∧
      (∀ k, n ≤ k → (k < m ↔ ∃ span ∈ Occurrence.heard? events, table.begunAt length k ≤ task.now + span)) ∧
      task.goOn length events =
        ((List.range' n (m - n)).map fun k => (table.begunAt length k, task.retention),
          { task with
            agenda := table.standing length m, now := task.now + Occurrence.elapsed events
            stopping := Occurrence.stops events }) := by
  induction events generalizing task n with
  | nil =>
    refine ⟨n, Nat.le_refl n, fun k hk => iff_of_false (by omega) (by simp [Occurrence.heard?]), ?_⟩
    rw [Nat.sub_self, ← h.agenda, Occurrence.stops, ← h.running]
    rfl
  | cons event rest ih =>
    cases event with
    | stop signal =>
      refine ⟨n, Nat.le_refl n, fun k hk => iff_of_false (by omega) (by simp [Occurrence.heard?]), ?_⟩
      rw [Nat.sub_self, ← h.agenda, PruningTask.goOn, goOn_stopping rfl]
      rfl
    | pass span =>
      obtain ⟨m, hnm, hwithin, htimes, htask⟩ := h.advance span
      have hat : At table length (task.advance length span).2 m := by
        rw [htask]
        exact ⟨h.tabled, rfl, h.running⟩
      obtain ⟨last, hml, hmore, hgo⟩ := ih hat
      have hnow : (task.advance length span).2.now = task.now + span.nanoseconds := by rw [htask]
      rw [hnow] at hmore
      refine ⟨last, by omega, fun k hk => ?_, ?_⟩
      · by_cases hkm : k < m
        · have hb := (hwithin k hk).mp hkm
          refine iff_of_true (by omega) ⟨_, rfl, ?_⟩
          omega
        · have hb := mt (hwithin k hk).mpr hkm
          rw [hmore k (by omega)]
          cases hh : Occurrence.heard? rest with
          | none =>
            simp [Occurrence.heard?, hh]
            omega
          | some heard => simp [Occurrence.heard?, hh, Nat.add_assoc]
      · have hsplit : List.range' n (last - n) = List.range' n (m - n) ++ List.range' m (last - m) := by
          have hjoin := @List.range'_append n (m - n) (last - m) 1
          rw [Nat.one_mul, show n + (m - n) = m by omega, show m - n + (last - m) = last - n by omega] at hjoin
          exact hjoin.symm
        simp only [PruningTask.goOn, hgo, htimes, hsplit]
        rw [htask]
        simp [Occurrence.elapsed, Occurrence.stops, Nat.add_assoc]

def started (table : Timetable) (window : Retention) : PruningTask where
  table? := some table
  retention := window
  agenda := { due := table.first }

theorem ofParameters?_eq {p : PruningParameters} (he : p.enabled = true) (hp : 0 < p.interval.nanoseconds) :
    ofParameters? p = some (started (.ofParameters p hp) p.retention) := by
  simp only [ofParameters?, he, dif_pos hp]
  rfl

theorem at_started (table : Timetable) (length : Nat → Nat) (window : Retention) :
    At table length (started table window) 0 := ⟨rfl, rfl, rfl⟩

end PruningTask
end ValidatorSigner.Protection
