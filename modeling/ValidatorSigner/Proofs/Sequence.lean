import Mathlib.Data.List.Forall2
import Mathlib.Data.List.Nodup

/-! # Sequences

What has a key of its own is found by it. Attempts that are made one after the other all succeed, or end with the
first one that fails.
-/
namespace ValidatorSigner

section Lookup
variable {α κ : Type} [DecidableEq κ] {key : α → κ} {xs : List α} {x : α} {k : κ}

theorem find?_key_eq_none_iff : xs.find? (fun y => key y = k) = none ↔ k ∉ xs.map key := by
  simp

theorem find?_key_eq_some_iff (hn : (xs.map key).Nodup) :
    xs.find? (fun y => key y = k) = some x ↔ x ∈ xs ∧ key x = k := by
  constructor
  · intro h
    have hkey := List.find?_some h
    exact ⟨List.mem_of_find?_eq_some h, of_decide_eq_true hkey⟩
  · rintro ⟨hm, rfl⟩
    cases hf : xs.find? (fun y => key y = key x) with
    | none => exact absurd (List.mem_map_of_mem hm) (find?_key_eq_none_iff.mp hf)
    | some found =>
      have hkey := List.find?_some hf
      rw [List.inj_on_of_nodup_map hn (List.mem_of_find?_eq_some hf) hm (of_decide_eq_true hkey)]

end Lookup

section Attempts
variable {ε α β : Type} {f : α → Except ε β} {x : α} {xs : List α} {ys : List β} {e : ε}

theorem bind_ok_iff {x : Except ε α} {f : α → Except ε β} {b : β} :
    x >>= f = .ok b ↔ ∃ a, x = .ok a ∧ f a = .ok b := by
  cases x with
  | error e => simp [bind, Except.bind]
  | ok a => simp [bind, Except.bind]

theorem bind_error_iff {x : Except ε α} {f : α → Except ε β} {e : ε} :
    x >>= f = .error e ↔ x = .error e ∨ ∃ a, x = .ok a ∧ f a = .error e := by
  cases x with
  | error e => simp [bind, Except.bind]
  | ok a => simp [bind, Except.bind]

theorem exists_forall₂_iff {R : α → β → Prop} : (∃ ys, List.Forall₂ R xs ys) ↔ ∀ x ∈ xs, ∃ y, R x y := by
  induction xs with
  | nil => simp
  | cons x xs ih =>
    rw [List.forall_mem_cons, ← ih]
    constructor
    · rintro ⟨ys, hall⟩
      obtain ⟨y, rest, hy, hrest, -⟩ := List.forall₂_cons_left_iff.mp hall
      exact ⟨⟨y, hy⟩, rest, hrest⟩
    · rintro ⟨⟨y, hy⟩, rest, hrest⟩
      exact ⟨y :: rest, .cons hy hrest⟩

theorem forall₂_eq_map_iff {f : β → α} : List.Forall₂ (fun x y => x = f y) xs ys ↔ xs = ys.map f := by
  rw [← List.forall₂_map_right_iff, List.forall₂_eq_eq_eq]

theorem mapM_cons_ok_iff :
    (x :: xs).mapM f = .ok ys ↔ ∃ y rest, f x = .ok y ∧ xs.mapM f = .ok rest ∧ ys = y :: rest := by
  simp only [List.mapM_cons, bind_ok_iff, pure, Except.pure, Except.ok.injEq, exists_and_left, eq_comm (a := ys)]

theorem mapM_cons_error_iff :
    (x :: xs).mapM f = .error e ↔ f x = .error e ∨ (∃ y, f x = .ok y) ∧ xs.mapM f = .error e := by
  simp only [List.mapM_cons, bind_error_iff, pure, Except.pure, reduceCtorEq, and_false, exists_false, or_false,
    exists_and_right]

theorem mapM_ok_iff : xs.mapM f = .ok ys ↔ List.Forall₂ (fun x y => f x = .ok y) xs ys := by
  induction xs generalizing ys with
  | nil => simp [pure, Except.pure, eq_comm]
  | cons x xs ih => simp only [mapM_cons_ok_iff, List.forall₂_cons_left_iff, ih]

/-- The first attempt that fails ends them all. -/
theorem mapM_error_iff :
    xs.mapM f = .error e ↔
      ∃ before x after, xs = before ++ x :: after ∧ (∀ y ∈ before, ∃ b, f y = .ok b) ∧ f x = .error e := by
  induction xs with
  | nil => simp [pure, Except.pure]
  | cons x xs ih =>
    rw [mapM_cons_error_iff, ih]
    constructor
    · rintro (hx | ⟨hx, before, y, after, rfl, hbefore, hy⟩)
      · exact ⟨[], x, xs, rfl, nofun, hx⟩
      · refine ⟨x :: before, y, after, rfl, fun z hz => ?_, hy⟩
        rcases List.mem_cons.mp hz with rfl | hz
        · exact hx
        · exact hbefore z hz
    · rintro ⟨before, y, after, hsplit, hbefore, hy⟩
      cases before with
      | nil =>
        obtain ⟨rfl, rfl⟩ := List.cons.inj hsplit
        exact .inl hy
      | cons z before =>
        obtain ⟨rfl, rfl⟩ := List.cons.inj hsplit
        refine .inr ⟨hbefore x List.mem_cons_self, before, y, after, rfl, fun w hw => ?_, hy⟩
        exact hbefore w (List.mem_cons_of_mem x hw)

end Attempts

/-- Two attempts that fail alike, or succeed with related results. -/
inductive Alike {ε α β : Type} (R : α → β → Prop) : Except ε α → Except ε β → Prop
  | error (e : ε) : Alike R (.error e) (.error e)
  | ok {a : α} {b : β} (h : R a b) : Alike R (.ok a) (.ok b)

namespace Alike
variable {ε α β γ κ : Type} {e : ε}

theorem error_iff {R : α → β → Prop} {x : Except ε α} {y : Except ε β} (h : Alike R x y) :
    x = .error e ↔ y = .error e := by
  cases h with
  | error e => simp
  | ok h => simp

theorem exists_of_ok {R : α → β → Prop} {x : Except ε α} {y : Except ε β} {a : α} (h : Alike R x y)
    (hx : x = .ok a) : ∃ b, y = .ok b ∧ R a b := by
  cases h with
  | error e => cases hx
  | ok hR =>
    cases hx
    exact ⟨_, rfl, hR⟩

theorem bind_pure {R : α → γ → Prop} {f : β → γ} {x : Except ε α} {y : Except ε β}
    (h : Alike (fun a b => R a (f b)) x y) : Alike R x (y >>= fun b => pure (f b)) := by
  cases h with
  | error e => exact .error e
  | ok hR => exact .ok hR

variable {R : β → List γ → Prop} {x : Except ε α} {next : α → Except ε β} {f : κ → Except ε γ} {wrap : α → γ} {k : κ}
  {ks : List κ}

/-- An attempt at the first of a list, with one that is like the attempts at the rest of the list after it. -/
theorem bind_mapM (hx : x.map wrap = f k) (h : ∀ a, Alike (fun b cs => R b (wrap a :: cs)) (next a) (ks.mapM f)) :
    Alike R (x >>= next) ((k :: ks).mapM f) := by
  rw [List.mapM_cons, ← hx]
  cases x with
  | error e => exact .error e
  | ok a => exact (h a).bind_pure

end Alike
end ValidatorSigner
