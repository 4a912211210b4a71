import Mathlib.Data.List.DropRight
import ValidatorSigner.Text.Blank

/-! # Texts without surrounding blanks

Blanks are dropped at both ends of a text until something else stands there. The rest is all that a reader of numbers,
flags or keys looks at, whatever blanks were around it.
-/
namespace ValidatorSigner.Text

/-- A text without the blanks at its ends. -/
structure Trimmed (chars core : List Char) : Prop where
  split : ∃ before after, chars = before ++ core ++ after ∧ (∀ c ∈ before, isBlank c = true) ∧
    ∀ c ∈ after, isBlank c = true
  first : ∀ c ∈ core.head?, isBlank c = false
  last : ∀ c ∈ core.getLast?, isBlank c = false

variable {chars core before after : List Char}

theorem dropWhile_blank (hb : ∀ c ∈ before, isBlank c = true) (hf : ∀ c ∈ core.head?, isBlank c = false) :
    (before ++ core).dropWhile isBlank = core := by
  rw [List.dropWhile_append_of_pos hb]
  cases core with
  | nil => rfl
  | cons c rest => rw [List.dropWhile_cons_of_neg (by simp [hf c (by simp)])]

theorem trimmed_trimBlanks (chars : List Char) : Trimmed chars (trimBlanks chars) := by
  have hcore : trimBlanks chars = (chars.dropWhile isBlank).rdropWhile isBlank := rfl
  refine ⟨⟨chars.takeWhile isBlank, (chars.dropWhile isBlank).rtakeWhile isBlank, ?_, ?_, ?_⟩, ?_, ?_⟩
  · rw [hcore, List.append_assoc, List.rdropWhile_append_rtakeWhile, List.takeWhile_append_dropWhile]
  · exact fun c hc => List.mem_takeWhile_imp hc
  · exact fun c hc => List.mem_rtakeWhile_imp hc
  · intro c hc
    obtain ⟨rest, hrest⟩ := List.head?_eq_some_iff.mp hc
    obtain ⟨dropped, hdropped⟩ := List.rdropWhile_prefix isBlank (chars.dropWhile isBlank)
    have hhead := List.head?_dropWhile_not isBlank chars
    rw [← hdropped, ← hcore, hrest] at hhead
    exact hhead
  · intro c hc
    obtain ⟨rest, hrest⟩ := List.getLast?_eq_some_iff.mp hc
    have hne : (chars.dropWhile isBlank).rdropWhile isBlank ≠ [] := by
      rw [← hcore, hrest]
      simp
    have hlast := List.rdropWhile_last_not isBlank _ hne
    simpa [← hcore, hrest] using hlast

/-- Only one text is left of another. -/
theorem Trimmed.eq (h : Trimmed chars core) : core = trimBlanks chars := by
  obtain ⟨⟨before, after, rfl, hbefore, hafter⟩, hfirst, hlast⟩ := h
  have hback : ∀ c ∈ after.reverse, isBlank c = true := fun c hc => hafter c (List.mem_reverse.mp hc)
  rw [trimBlanks, List.append_assoc]
  cases core with
  | nil =>
    have hall : ∀ c ∈ before ++ ([] ++ after), isBlank c = true := by
      simpa [or_imp, forall_and] using ⟨hbefore, hafter⟩
    rw [List.dropWhile_eq_nil_iff.mpr hall]
    rfl
  | cons c rest =>
    rw [dropWhile_blank hbefore (by simpa using hfirst), List.reverse_append,
      dropWhile_blank hback (by rwa [List.head?_reverse]), List.reverse_reverse]

theorem trimmed_iff : Trimmed chars core ↔ core = trimBlanks chars := by
  constructor
  · exact Trimmed.eq
  · rintro rfl
    exact trimmed_trimBlanks chars

theorem Trimmed.of_nonblank (hbefore : ∀ c ∈ before, isBlank c = true) (hafter : ∀ c ∈ after, isBlank c = true)
    (h : ∀ c ∈ core, isBlank c = false) : Trimmed (before ++ core ++ after) core where
  split := ⟨before, after, rfl, hbefore, hafter⟩
  first c hc := h c (List.mem_of_head? hc)
  last c hc := h c (List.mem_of_getLast? hc)

end ValidatorSigner.Text
