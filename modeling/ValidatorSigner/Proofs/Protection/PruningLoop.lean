import Mathlib.Logic.Relation
import ValidatorSigner.Proofs.Protection.Timing
import ValidatorSigner.Protection.Error

/-! # The pruning loop

The loop waits until a call is due or it is told to stop, whichever is first, and does nothing else while a call
is under way. Step by step it does what the task was said to do, as long as it never has the choice between a call
and the signal to stop.
-/
namespace ValidatorSigner.Protection

structure Pass where
  length : Nat
  result : Except ProtectionError PruneReport

def lengths (passes : Nat → Pass) (k : Nat) : Nat := (passes k).length

inductive Phase where
  | waiting
  /-- A call is under way that ends at some time. -/
  | pruning (ends : Nat)
  | ended

structure PruningLoop where
  now : Nat := 0
  /-- When the next call is due. -/
  due : Nat
  phase : Phase := .waiting
  /-- The first signal to stop, and when it came. -/
  signal? : Option (Nat × Signal) := none
  /-- When each call began, and what it keeps. -/
  begun : List (Nat × Retention) := []
  /-- What has come of the calls that have ended. -/
  results : List (Except ProtectionError PruneReport) := []

namespace PruningLoop

def start (p : PruningParameters) : PruningLoop := { due := if p.atBoot then 0 else p.interval.nanoseconds }

def Idle (l : PruningLoop) : Prop :=
  match l.phase with
  | .waiting => l.now < l.due ∧ l.signal? = none
  | .pruning ends => l.now < ends
  | .ended => True

/-- One step of the loop, or of what goes on around it. Time passes only if there is nothing to do. There is no
step that chooses between a call that is due and a signal. -/
inductive Step (p : PruningParameters) (passes : Nat → Pass) : PruningLoop → PruningLoop → Prop
  | tick {l : PruningLoop} (hw : l.phase = .waiting) (hd : l.due ≤ l.now) (hs : l.signal? = none) :
    Step p passes l
      { l with
        due := if l.now ≤ l.due + 5000000 then l.due + p.interval.nanoseconds else l.now + p.interval.nanoseconds
        phase := .pruning (l.now + (passes l.begun.length).length)
        begun := l.begun ++ [(l.now, p.retention)] }
  | finish {l : PruningLoop} (hp : l.phase = .pruning l.now) :
    Step p passes l { l with phase := .waiting, results := l.results ++ [(passes l.results.length).result] }
  | heed {l : PruningLoop} (hw : l.phase = .waiting) (hd : l.now < l.due) (hs : l.signal?.isSome) :
    Step p passes l { l with phase := .ended }
  | signal {l : PruningLoop} (signal : Signal) :
    Step p passes l { l with signal? := l.signal?.or (some (l.now, signal)) }
  | elapse {l : PruningLoop} (hi : l.Idle) : Step p passes l { l with now := l.now + 1 }

def limit (l : PruningLoop) : Nat := (l.signal?.map (·.1)).getD l.now

variable {p : PruningParameters} {passes : Nat → Pass} {table : Timetable} {l l' : PruningLoop}
  {n : Nat} {window : Retention}

/-- Only the first signal counts. -/
theorem limit_signal (signal : Signal) :
    ({ l with signal? := l.signal?.or (some (l.now, signal)) } : PruningLoop).limit = l.limit := by
  cases hs : l.signal? with
  | none => simp [limit, hs]
  | some s => simp [limit, hs]

theorem limit_le_elapse : l.limit ≤ ({ l with now := l.now + 1 } : PruningLoop).limit := by
  cases hs : l.signal? with
  | none => simp [limit, hs]
  | some s => simp [limit, hs]

/-- The loop has begun its first `n` calls, all when the timetable says so. -/
structure Follows (table : Timetable) (passes : Nat → Pass) (window : Retention) (l : PruningLoop) (n : Nat) : Prop where
  begun : l.begun = (List.range n).map fun k => (table.begunAt (lengths passes) k, window)
  due : l.due = table.dueAt (lengths passes) n
  past : ∀ k < n, table.begunAt (lengths passes) k ≤ l.limit
  signalled : ∀ s ∈ l.signal?, s.1 ≤ l.now
  waiting : l.phase = .waiting →
    (table.standing (lengths passes) n).free ≤ l.now ∧
      l.now ≤ table.begunAt (lengths passes) n ∧
      l.results = (List.range n).map fun k => (passes k).result
  pruning : ∀ ends, l.phase = .pruning ends →
    0 < n ∧ ends = (table.standing (lengths passes) n).free ∧ l.now ≤ ends ∧
      l.results = (List.range (n - 1)).map fun k => (passes k).result
  ended : l.phase = .ended →
    (table.standing (lengths passes) n).free ≤ l.now ∧ l.signal?.isSome ∧
      l.limit < table.begunAt (lengths passes) n ∧
      l.results = (List.range n).map fun k => (passes k).result

theorem follows_start (hp : 0 < p.interval.nanoseconds) :
    Follows (.ofParameters p hp) passes window (start p) 0 := by
  refine ⟨rfl, rfl, nofun, nofun, fun _ => ⟨Nat.zero_le _, Nat.zero_le _, rfl⟩, nofun, nofun⟩

theorem Follows.limit_le (h : Follows table passes window l n) : l.limit ≤ l.now := by
  cases hs : l.signal? with
  | none => simp [limit, hs]
  | some s => simpa [limit, hs] using h.signalled s (by simp [hs])

theorem Follows.tick (hp : 0 < p.interval.nanoseconds) (h : Follows (.ofParameters p hp) passes p.retention l n)
    (hw : l.phase = .waiting) (hd : l.due ≤ l.now) (hs : l.signal? = none) :
    Follows (.ofParameters p hp) passes p.retention
      { l with
        due := if l.now ≤ l.due + 5000000 then l.due + p.interval.nanoseconds else l.now + p.interval.nanoseconds
        phase := .pruning (l.now + (passes l.begun.length).length)
        begun := l.begun ++ [(l.now, p.retention)] } (n + 1) := by
  obtain ⟨hfree, hnext, hresults⟩ := h.waiting hw
  have hcount : l.begun.length = n := by simp [h.begun]
  have hnow : l.now = (Timetable.ofParameters p hp).begunAt (lengths passes) n := by
    have hdue := h.due
    have hbegun : (Timetable.ofParameters p hp).begunAt (lengths passes) n =
        max ((Timetable.ofParameters p hp).dueAt (lengths passes) n)
          ((Timetable.ofParameters p hp).standing (lengths passes) n).free := rfl
    omega
  constructor
  case begun =>
    rw [List.range_succ, List.map_append, h.begun, hnow]
    rfl
  case due =>
    rw [Timetable.dueAt_succ, ← hnow, ← h.due]
    rfl
  case past =>
    intro k hk
    have hmono := (Timetable.ofParameters p hp).begunAt_monotone (lengths passes) (Nat.le_of_lt_succ hk)
    simpa [limit, hs, hnow] using hmono
  case signalled => simp [hs]
  case waiting =>
    intro hwaiting
    cases hwaiting
  case pruning =>
    intro ends hends
    obtain rfl := Phase.pruning.inj hends
    refine ⟨Nat.succ_pos n, ?_, Nat.le_add_right _ _, hresults⟩
    rw [hcount, hnow]
    rfl
  case ended =>
    intro hended
    cases hended

theorem Follows.step (hp : 0 < p.interval.nanoseconds) (h : Follows (.ofParameters p hp) passes p.retention l n)
    (hs : Step p passes l l') : ∃ m, Follows (.ofParameters p hp) passes p.retention l' m := by
  cases hs with
  | tick hw hd hs => exact ⟨n + 1, h.tick hp hw hd hs⟩
  | finish hf =>
    obtain ⟨hn, hends, -, hresults⟩ := h.pruning _ hf
    refine ⟨n, h.begun, h.due, h.past, h.signalled, fun _ => ⟨hends.ge, ?_, ?_⟩, nofun, nofun⟩
    · exact hends.le.trans (Timetable.free_le_begunAt _ _ n)
    · obtain ⟨k, rfl⟩ := Nat.exists_eq_add_of_lt hn
      simp [hresults, List.range_succ]
  | heed hw hd hs =>
    obtain ⟨hfree, hnext, hresults⟩ := h.waiting hw
    refine ⟨n, h.begun, h.due, h.past, h.signalled, nofun, nofun, fun _ => ⟨hfree, hs, ?_, hresults⟩⟩
    have hlimit := h.limit_le
    have hdue := Timetable.dueAt_le_begunAt (.ofParameters p hp) (lengths passes) n
    have hsame := h.due
    change l.limit < _
    omega
  | signal signal =>
    refine ⟨n, h.begun, h.due, ?_, ?_, h.waiting, h.pruning, fun he => ?_⟩
    · rw [limit_signal]
      exact h.past
    · intro s hmem
      cases hs : l.signal? with
      | none =>
        simp only [hs, Option.none_or, Option.mem_def, Option.some.injEq] at hmem
        exact hmem ▸ Nat.le_refl l.now
      | some first => exact h.signalled s (by simpa [hs] using hmem)
    · obtain ⟨hfree, hsome, hbefore, hresults⟩ := h.ended he
      refine ⟨hfree, ?_, ?_, hresults⟩
      · obtain ⟨first, hfirst⟩ := Option.isSome_iff_exists.mp hsome
        simp [hfirst]
      · rw [limit_signal]
        exact hbefore
  | elapse hi =>
    refine ⟨n, h.begun, h.due, fun k hk => (h.past k hk).trans limit_le_elapse,
      fun s hs => Nat.le_succ_of_le (h.signalled s hs), fun hw => ?_, fun ends hends => ?_, fun he => ?_⟩
    · obtain ⟨hfree, -, hresults⟩ := h.waiting hw
      simp only [Idle, show l.phase = .waiting from hw] at hi
      have hdue := Timetable.dueAt_le_begunAt (.ofParameters p hp) (lengths passes) n
      have hsame := h.due
      exact ⟨Nat.le_succ_of_le hfree, by dsimp only; omega, hresults⟩
    · obtain ⟨hn, hfree, -, hresults⟩ := h.pruning ends hends
      simp only [Idle, show l.phase = .pruning ends from hends] at hi
      exact ⟨hn, hfree, hi, hresults⟩
    · obtain ⟨hfree, hsome, hbefore, hresults⟩ := h.ended he
      obtain ⟨s, hs⟩ := Option.isSome_iff_exists.mp hsome
      refine ⟨Nat.le_succ_of_le hfree, hsome, ?_, hresults⟩
      simpa [limit, hs] using hbefore

theorem Follows.steps (hp : 0 < p.interval.nanoseconds) (hs : Relation.ReflTransGen (Step p passes) (start p) l) :
    ∃ n, Follows (.ofParameters p hp) passes p.retention l n := by
  induction hs with
  | refl => exact ⟨0, follows_start hp⟩
  | tail _ hstep ih =>
    obtain ⟨n, h⟩ := ih
    exact h.step hp hstep

/-- A loop that has nothing to do has begun all calls that the timetable has for it. -/
theorem Follows.complete (hp : 0 < p.interval.nanoseconds) (h : Follows (.ofParameters p hp) passes p.retention l n)
    (hi : l.Idle) (k : Nat) : k < n ↔ (Timetable.ofParameters p hp).begunAt (lengths passes) k ≤ l.limit := by
  have hbefore : l.limit < (Timetable.ofParameters p hp).begunAt (lengths passes) n := by
    have hlimit := h.limit_le
    have hdue := Timetable.dueAt_le_begunAt (.ofParameters p hp) (lengths passes) n
    have hfree := Timetable.free_le_begunAt (.ofParameters p hp) (lengths passes) n
    have hsame := h.due
    cases hphase : l.phase with
    | waiting =>
      simp only [Idle, hphase] at hi
      omega
    | pruning ends =>
      obtain ⟨-, hends, -, -⟩ := h.pruning ends hphase
      simp only [Idle, hphase] at hi
      omega
    | ended =>
      obtain ⟨-, -, hended, -⟩ := h.ended hphase
      exact hended
  constructor
  · exact h.past k
  · intro hk
    by_contra hge
    have hmono := (Timetable.ofParameters p hp).begunAt_monotone (lengths passes) (Nat.le_of_not_lt hge)
    omega

theorem Follows.ended_iff (h : Follows table passes window l n) (hi : l.Idle) :
    l.phase = .ended ↔ l.signal?.isSome ∧ (table.standing (lengths passes) n).free ≤ l.now := by
  cases hphase : l.phase with
  | waiting =>
    simp only [Idle, hphase] at hi
    simp [hi.2]
  | pruning ends =>
    obtain ⟨-, hends, -, -⟩ := h.pruning ends hphase
    simp only [Idle, hphase] at hi
    refine iff_of_false nofun fun hfree => ?_
    omega
  | ended =>
    obtain ⟨hfree, hsome, -, -⟩ := h.ended hphase
    exact iff_of_true rfl ⟨hsome, hfree⟩

abbrev Steps (p : PruningParameters) (passes : Nat → Pass) : PruningLoop → PruningLoop → Prop :=
  Relation.ReflTransGen (Step p passes)

theorem steps_elapse (d : Nat) (hi : ∀ d' < d, ({ l with now := l.now + d' } : PruningLoop).Idle) :
    Steps p passes l { l with now := l.now + d } := by
  induction d with
  | zero => exact .refl
  | succ d ih => exact (ih fun d' hd => hi d' (Nat.lt_succ_of_lt hd)).tail (.elapse (hi d (Nat.lt_succ_self d)))

/-- Between two calls that take no time the due time grows, so there is an end of what can be done at one time. -/
theorem settle_waiting (hp : 0 < p.interval.nanoseconds) (hw : l.phase = .waiting) (hs : l.signal? = none) :
    ∃ l', Steps p passes l l' ∧ l'.Idle ∧ l'.now = l.now ∧ l'.signal? = none := by
  generalize hleft : l.now + 1 - l.due = left
  induction left using Nat.strong_induction_on generalizing l with
  | _ left ih =>
    by_cases hd : l.due ≤ l.now
    · have htick := @Step.tick p passes l hw hd hs
      by_cases hlong : 0 < (passes l.begun.length).length
      · exact ⟨_, .single htick, Nat.lt_add_of_pos_right hlong, rfl, hs⟩
      · have hends : l.now + (passes l.begun.length).length = l.now := by omega
        rw [hends] at htick
        obtain ⟨l', hsteps, hidle⟩ := @ih _ (by dsimp only; split <;> omega)
          { l with
            due := if l.now ≤ l.due + 5000000 then l.due + p.interval.nanoseconds else l.now + p.interval.nanoseconds
            phase := .waiting, begun := l.begun ++ [(l.now, p.retention)]
            results := l.results ++ [(passes l.results.length).result] } rfl hs rfl
        exact ⟨l', .head htick (.head (.finish rfl) hsteps), hidle⟩
    · refine ⟨l, .refl, ?_, rfl, hs⟩
      simpa [Idle, hw, hs] using hd

theorem Follows.settle (hp : 0 < p.interval.nanoseconds) (h : Follows table passes window l n)
    (hs : l.signal? = none) : ∃ l', Steps p passes l l' ∧ l'.Idle ∧ l'.now = l.now ∧ l'.signal? = none := by
  cases hphase : l.phase with
  | waiting => exact settle_waiting hp hphase hs
  | ended =>
    obtain ⟨-, hsome, -, -⟩ := h.ended hphase
    simp [hs] at hsome
  | pruning ends =>
    obtain ⟨-, -, hle, -⟩ := h.pruning ends hphase
    obtain hlt | rfl := hle.lt_or_eq
    · refine ⟨l, .refl, ?_, rfl, hs⟩
      simpa only [Idle, hphase] using hlt
    · obtain ⟨l', hsteps, hidle⟩ := @settle_waiting p passes
        { l with phase := .waiting, results := l.results ++ [(passes l.results.length).result] } hp rfl hs
      exact ⟨l', .head (.finish hphase) hsteps, hidle⟩

/-- As long as it is not told to stop, the loop goes on to any time. -/
theorem exists_quiet (hp : 0 < p.interval.nanoseconds) (passes : Nat → Pass) (time : Nat) :
    ∃ l, Steps p passes (start p) l ∧ l.Idle ∧ l.now = time ∧ l.signal? = none := by
  induction time with
  | zero => exact settle_waiting hp rfl rfl
  | succ time ih =>
    obtain ⟨l, hsteps, hi, hnow, hs⟩ := ih
    have helapsed := hsteps.tail (.elapse hi)
    obtain ⟨n, h⟩ := Follows.steps hp helapsed
    obtain ⟨l', hmore, hidle, hlater, hquiet⟩ := h.settle hp hs
    exact ⟨l', helapsed.trans hmore, hidle, hlater.trans (by rw [hnow]), hquiet⟩

theorem steps_ended (he : l.phase = .ended) (d : Nat) : Steps p passes l { l with now := l.now + d } := by
  apply steps_elapse
  intro d' _
  simp only [Idle, he]

/-- Told to stop, the loop lets a call under way come to its end, and ends then if no call is due before. -/
theorem exists_stopped (hp : 0 < p.interval.nanoseconds) (passes : Nat → Pass) (signal : Signal) {stopped time : Nat}
    (hle : stopped ≤ time)
    (hapart : ∀ n, (∀ k, k < n ↔ (Timetable.ofParameters p hp).begunAt (lengths passes) k ≤ stopped) →
      max stopped ((Timetable.ofParameters p hp).standing (lengths passes) n).free <
        (Timetable.ofParameters p hp).dueAt (lengths passes) n) :
    ∃ l, Steps p passes (start p) l ∧ l.Idle ∧ l.now = time ∧ l.signal? = some (stopped, signal) := by
  obtain ⟨l, hsteps, hi, rfl, hs⟩ := exists_quiet hp passes stopped
  obtain ⟨n, h⟩ := Follows.steps hp hsteps
  have hlimit : l.limit = l.now := by simp [limit, hs]
  have hlater := hapart n (by simpa only [hlimit] using h.complete hp hi)
  rw [← h.due] at hlater
  have hsignal : Steps p passes (start p) { l with signal? := some (l.now, signal) } := by
    have hstep := @Step.signal p passes l signal
    rw [hs] at hstep
    exact hsteps.tail hstep
  cases hphase : l.phase with
  | ended =>
    obtain ⟨-, hsome, -, -⟩ := h.ended hphase
    simp [hs] at hsome
  | waiting =>
    obtain ⟨d, rfl⟩ := Nat.exists_eq_add_of_le hle
    have hended := hsignal.tail (.heed hphase (by dsimp only; omega) rfl)
    exact ⟨_, hended.trans (steps_ended rfl d), trivial, rfl, rfl⟩
  | pruning ends =>
    obtain ⟨-, hends, hunder, -⟩ := h.pruning ends hphase
    by_cases hshort : time < ends
    · obtain ⟨d, rfl⟩ := Nat.exists_eq_add_of_le hle
      refine ⟨_, hsignal.trans (steps_elapse d fun d' hd => ?_), ?_, rfl, rfl⟩
      · simp only [Idle, hphase]
        omega
      · simpa only [Idle, hphase] using hshort
    · obtain ⟨rest, rfl⟩ := Nat.exists_eq_add_of_le hunder
      obtain ⟨d, rfl⟩ := Nat.exists_eq_add_of_le (Nat.le_of_not_lt hshort)
      have hwaited := hsignal.trans (steps_elapse rest fun d' hd => by simp only [Idle, hphase]; omega)
      have hfinished := hwaited.tail (.finish hphase)
      have hended := hfinished.tail (.heed rfl (by dsimp only; omega) rfl)
      exact ⟨_, hended.trans (steps_ended rfl d), trivial, rfl, rfl⟩

end PruningLoop

structure Paced (p : PruningParameters) (length T N : Nat → Nat) : Prop where
  first : T 0 = if p.atBoot then 0 else p.interval.nanoseconds
  begun : N 0 = T 0
  next : ∀ k, N (k + 1) = max (T (k + 1)) (N k + length k)
  due : ∀ k, T (k + 1) =
    if N k ≤ T k + 5000000 then T k + p.interval.nanoseconds else N k + p.interval.nanoseconds

structure PruningTask.Scheduled (length N : Nat → Nat) (window : Retention) (task : PruningTask)
    (events : List Occurrence) (n : Nat) : Prop where
  begun : (task.goOn length events).1 = (List.range n).map fun k => (N k, window)
  all : ∀ k, k < n ↔ ∃ span ∈ Occurrence.heard? events, N k ≤ span
  ended : (task.goOn length events).2.hasEnded = true ↔
    Occurrence.stops events = true ∧ ∀ k < n, N k + length k ≤ Occurrence.elapsed events

structure PruningLoop.Scheduled (passes : Nat → Pass) (N : Nat → Nat) (window : Retention) (l : PruningLoop) (n : Nat) :
    Prop where
  begun : l.begun = (List.range n).map fun k => (N k, window)
  all : l.Idle → ∀ k, k < n ↔ N k ≤ l.limit
  /-- A call that is under way is the last one, and takes its time. -/
  pruning : ∀ ends, l.phase = .pruning ends → ∃ k, n = k + 1 ∧ ends = N k + lengths passes k
  ended : l.Idle → (l.phase = .ended ↔ l.signal?.isSome ∧ ∀ k < n, N k + lengths passes k ≤ l.now)
  finished : l.phase = .ended → l.results = (List.range n).map fun k => (passes k).result

namespace Timetable
variable (p : PruningParameters) (hp : 0 < p.interval.nanoseconds) (length : Nat → Nat)

theorem paced : Paced p length ((ofParameters p hp).dueAt length) ((ofParameters p hp).begunAt length) where
  first := rfl
  begun := begunAt_zero _ length
  next := begunAt_succ _ length
  due := dueAt_succ _ length

end Timetable

theorem PruningTask.exists_scheduled (table : Timetable) (length : Nat → Nat) (window : Retention)
    (events : List Occurrence) :
    ∃ n, (started table window).Scheduled length (table.begunAt length) window events n := by
  obtain ⟨n, -, hall, hgo⟩ := (at_started table length window).goOn events
  have hnow : (started table window).now = 0 := rfl
  refine ⟨n, ?_, fun k => ?_, ?_⟩
  · rw [hgo, Nat.sub_zero, List.range_eq_range']
    rfl
  · rw [hall k (Nat.zero_le k), hnow]
    simp only [Nat.zero_add]
  · rw [hgo, ← Timetable.free_le_iff]
    simp [hasEnded, started]

theorem PruningLoop.exists_scheduled {p : PruningParameters} (hp : 0 < p.interval.nanoseconds) {passes : Nat → Pass}
    {l : PruningLoop} (hl : Steps p passes (start p) l) :
    ∃ n, l.Scheduled passes ((Timetable.ofParameters p hp).begunAt (lengths passes)) p.retention n := by
  obtain ⟨n, h⟩ := Follows.steps hp hl
  refine ⟨n, h.begun, h.complete hp, fun ends hends => ?_, fun hi => ?_, fun he => (h.ended he).2.2.2⟩
  · obtain ⟨hn, hfree, -, -⟩ := h.pruning ends hends
    obtain ⟨k, rfl⟩ := Nat.exists_eq_add_of_lt hn
    exact ⟨k, by omega, by rw [hfree]; simp [Timetable.standing_succ]⟩
  · rw [h.ended_iff hi, Timetable.free_le_iff]

/-- Pruning begins on a grid of times that depends on nothing but how long the calls take, and both the task and the
loop that it stands for keep to it until they are told to stop. -/
theorem pruning_on_schedule (p : PruningParameters) (he : p.enabled = true) (hp : 0 < p.interval.nanoseconds)
    (length : Nat → Nat) :
    ∃ task T N, PruningTask.ofParameters? p = some task ∧ Paced p length T N ∧
      (∀ k, N k + length k ≤ N (k + 1)) ∧
      (∀ k, N k + p.interval.nanoseconds ≤ N (k + 1) + 5000000) ∧
      (∀ events, ∃ n, task.Scheduled length N p.retention events n) ∧
      ∀ passes, lengths passes = length →
        (∀ l, PruningLoop.Steps p passes (.start p) l → ∃ n, l.Scheduled passes N p.retention n) ∧
        (∀ time, ∃ l, PruningLoop.Steps p passes (.start p) l ∧ l.Idle ∧ l.now = time ∧ l.signal? = none) ∧
        (∀ signal stopped time, stopped ≤ time →
          (∀ n, (∀ k, k < n ↔ N k ≤ stopped) → stopped < T n ∧ ∀ k < n, N k + length k < T n) →
          ∃ l, PruningLoop.Steps p passes (.start p) l ∧ l.Idle ∧ l.now = time ∧ l.signal? = some (stopped, signal)) ∧
        ∀ events l, PruningLoop.Steps p passes (.start p) l → l.Idle → Occurrence.heard? events = some l.limit →
          Occurrence.elapsed events = l.now → Occurrence.stops events = l.signal?.isSome →
          (task.goOn length events).1 = l.begun ∧ ((task.goOn length events).2.hasEnded = true ↔ l.phase = .ended) := by
  let table := Timetable.ofParameters p hp
  have htask (events : List Occurrence) := PruningTask.exists_scheduled table length p.retention events
  refine ⟨_, table.dueAt length, table.begunAt length, PruningTask.ofParameters?_eq he hp, Timetable.paced p hp length,
    table.ended_le_begunAt length, table.period_le_gap length, htask, ?_⟩
  rintro passes rfl
  refine ⟨fun l hl => PruningLoop.exists_scheduled hp hl, PruningLoop.exists_quiet hp passes, ?_, ?_⟩
  · intro signal stopped time hle hapart
    apply PruningLoop.exists_stopped hp passes signal hle
    intro n hn
    obtain ⟨hlt, hfree⟩ := hapart n hn
    have hall : (table.standing (lengths passes) n).free ≤ table.dueAt (lengths passes) n - 1 :=
      (table.free_le_iff _ n _).mpr fun k hk => Nat.le_sub_one_of_lt (hfree k hk)
    have hfree : (table.standing (lengths passes) n).free < table.dueAt (lengths passes) n := by omega
    exact Nat.max_lt.mpr ⟨hlt, hfree⟩
  · intro events l hl hi hheard helapsed hstops
    obtain ⟨n, ht⟩ := htask events
    obtain ⟨m, hloop⟩ := PruningLoop.exists_scheduled hp hl
    have hsame : n = m := by
      have hiff (k : Nat) : k < n ↔ k < m := by
        rw [ht.all, hheard, hloop.all hi]
        simp [table]
      have hnm := hiff n
      have hmn := hiff m
      omega
    subst hsame
    refine ⟨ht.begun.trans hloop.begun.symm, ?_⟩
    rw [ht.ended, hloop.ended hi, hstops, helapsed]

def lateLengths : Nat → Nat
  | 0 => 1005000000
  | 1 => 1000000001
  | _ => 500000000

theorem pruning_on_schedule_late :
    let p : PruningParameters := { enabled := true, interval := .ofSeconds 1, atBoot := true }
    let events : List Occurrence :=
      [.pass (.ofMilliseconds 500), .pass (.ofMilliseconds 1700), .stop .dropped, .pass (.ofMilliseconds 400)]
    p.enabled = true ∧ 0 < p.interval.nanoseconds ∧ ∃ task, PruningTask.ofParameters? p = some task ∧
      (task.goOn lateLengths events).1 = [(0, p.retention), (1005000000, p.retention), (2005000001, p.retention)] ∧
      (task.goOn lateLengths events).2.hasEnded = true := by
  intro p events
  refine ⟨rfl, by decide, ?_⟩
  obtain ⟨task, T, N, htask, hpaced, -, -, hevents, -⟩ := pruning_on_schedule p rfl (by decide) lateLengths
  obtain ⟨n, hbegun, hall, hended⟩ := hevents events
  have hperiod : p.interval.nanoseconds = 1000000000 := rfl
  have ht₀ : T 0 = 0 := hpaced.first
  have hn₀ : N 0 = 0 := hpaced.begun.trans ht₀
  have ht₁ : T 1 = 1000000000 := by simp [hpaced.due 0, ht₀, hn₀, hperiod]
  have hn₁ : N 1 = 1005000000 := by simp [hpaced.next 0, ht₁, hn₀, lateLengths]
  have ht₂ : T 2 = 2000000000 := by simp [hpaced.due 1, hn₁, ht₁, hperiod]
  have hn₂ : N 2 = 2005000001 := by simp [hpaced.next 1, ht₂, hn₁, lateLengths]
  have ht₃ : T 3 = 3005000001 := by simp [hpaced.due 2, hn₂, ht₂, hperiod]
  have hn₃ : N 3 = 3005000001 := by simp [hpaced.next 2, ht₃, hn₂, lateLengths]
  have hheard : Occurrence.heard? events = some 2200000000 := rfl
  have hthree : n = 3 := by
    have hlast := hall 2
    have hnext := hall 3
    simp [hheard, hn₂, hn₃] at hlast hnext
    omega
  subst hthree
  refine ⟨task, htask, ?_, hended.mpr ⟨rfl, fun k hk => ?_⟩⟩
  · simp [hbegun, List.range_succ, hn₀, hn₁, hn₂]
  · have helapsed : Occurrence.elapsed events = 2600000000 := rfl
    rw [helapsed]
    obtain rfl | rfl | rfl : k = 0 ∨ k = 1 ∨ k = 2 := by omega
    · simp [hn₀, lateLengths]
    · simp [hn₁, lateLengths]
    · simp [hn₂, lateLengths]

end ValidatorSigner.Protection
