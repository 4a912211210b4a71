import Mathlib.Data.List.Nodup
import ValidatorSigner.Keys.Directory
import ValidatorSigner.Proofs.Text.Parts

/-! # The key files of a directory

A file describes a key if its name ends in `.yaml` or `.yml`, in capital or small letters, and something stands
before that. Such files have one order, whatever order they are listed in.
-/
namespace ValidatorSigner.Keys
open Store

section Names
variable {name stem ext : String}

theorem splitOn_dot (name : String) : name.splitOn "." = (name.toList.splitOn '.').map String.ofList :=
  Text.splitOn_char name '.'

theorem extension?_of_no_dot (h : '.' ∉ name.toList) : extension? name = none := by
  have hparts : name.splitOn "." = [name] := by
    rw [splitOn_dot, List.splitOn_eq_singleton h]
    simp
  simp [extension?, hparts]

theorem eq_of_splitOn_dot {first : String} (h : stem.splitOn "." = [first]) : stem = first := by
  rw [splitOn_dot] at h
  obtain ⟨part, hpart, rfl⟩ := List.map_eq_singleton_iff.mp h
  have hjoin := @List.intercalate_splitOn _ stem.toList _ _ '.'
  rw [hpart] at hjoin
  rw [show part = stem.toList by simpa using hjoin]
  simp

theorem extension?_of_dot (h : '.' ∉ ext.toList) :
    extension? (stem ++ "." ++ ext) = if stem = "" then none else some ext := by
  have hparts : (stem ++ "." ++ ext).splitOn "." = stem.splitOn "." ++ [ext] := by
    have hlist : (stem ++ "." ++ ext).toList = stem.toList ++ '.' :: ext.toList := by simp
    rw [splitOn_dot, splitOn_dot, hlist, List.splitOn_append_cons_self, List.splitOn_eq_singleton h]
    simp
  simp only [extension?, hparts, List.reverse_append, List.reverse_singleton, List.singleton_append]
  cases hstem : (stem.splitOn ".").reverse with
  | nil => simp [splitOn_dot] at hstem
  | cons first rest =>
    cases rest with
    | nil =>
      have hone : stem.splitOn "." = [first] := by simpa using congrArg List.reverse hstem
      rw [eq_of_splitOn_dot hone]
    | cons second rest =>
      have hne : stem ≠ "" := by
        rintro rfl
        simp [splitOn_dot] at hstem
      rw [if_neg hne]

/-- Letters that differ at most in being capital or small. -/
def SameLetters (a b : String) : Prop := a.toList.map Char.toLower = b.toList.map Char.toLower

theorem sameLetters_iff {b : String} (hb : b.toList.map Char.toLower = b.toList) :
    SameLetters ext b ↔ String.ofList (ext.toList.map Char.toLower) = b := by
  rw [SameLetters, hb]
  constructor
  · intro h
    rw [h, String.ofList_toList]
  · intro h
    rw [← h, String.toList_ofList]

/-- A name is a part before its last dot, that dot, and an ending behind it. -/
theorem exists_ending (h : '.' ∈ name.toList) : ∃ stem ext, name = stem ++ "." ++ ext ∧ '.' ∉ ext.toList := by
  obtain ⟨after, before, hname, hlast⟩ := List.eq_append_cons_of_mem (List.mem_reverse.mpr h)
  refine ⟨.ofList before.reverse, .ofList after.reverse, ?_, by simpa using hlast⟩
  have hlist : name.toList = before.reverse ++ '.' :: after.reverse := by
    simpa using congrArg List.reverse hname
  apply String.toList_inj.mp
  simp [hlist]

theorem isDescription_iff :
    isDescription name = true ↔
      ∃ stem ext, name = stem ++ "." ++ ext ∧ stem ≠ "" ∧ (SameLetters ext "yaml" ∨ SameLetters ext "yml") := by
  have hyaml (ext : String) := @sameLetters_iff ext "yaml" (by decide)
  have hyml (ext : String) := @sameLetters_iff ext "yml" (by decide)
  constructor
  · intro h
    by_cases hdot : '.' ∈ name.toList
    · obtain ⟨stem, ext, rfl, hext⟩ := exists_ending hdot
      by_cases hstem : stem = ""
      · simp only [isDescription, extension?_of_dot hext, if_pos hstem] at h
        cases h
      · refine ⟨stem, ext, rfl, hstem, ?_⟩
        rw [hyaml, hyml]
        simpa [isDescription, extension?_of_dot hext, hstem] using h
    · simp [isDescription, extension?_of_no_dot hdot] at h
  · rintro ⟨stem, ext, rfl, hstem, hext⟩
    have hdot : '.' ∉ ext.toList := by
      intro hmem
      have hlower : '.' ∈ ext.toList.map Char.toLower := List.mem_map.mpr ⟨'.', hmem, by decide⟩
      rcases hext with hext | hext
      · rw [show ext.toList.map Char.toLower = _ from hext] at hlower
        exact absurd hlower (by decide)
      · rw [show ext.toList.map Char.toLower = _ from hext] at hlower
        exact absurd hlower (by decide)
    rw [hyaml, hyml] at hext
    simpa [isDescription, extension?_of_dot hdot, hstem] using hext

end Names

structure Selected (file : String × Entry) : Prop where
  regular : file.2 ≠ .directory
  named : ∃ stem ext, file.1 = stem ++ "." ++ ext ∧ stem ≠ "" ∧ (SameLetters ext "yaml" ∨ SameLetters ext "yml")

theorem selected_iff {file : String × Entry} : (isDescription file.1 && isFile file.2) = true ↔ Selected file := by
  have hfile : isFile file.2 = true ↔ file.2 ≠ .directory := by
    cases file.2 with
    | directory => simp [isFile]
    | file content => simp [isFile]
    | database number => simp [isFile]
  rw [Bool.and_eq_true, isDescription_iff, hfile]
  constructor
  · rintro ⟨hname, hregular⟩
    exact ⟨hregular, hname⟩
  · rintro ⟨hregular, hname⟩
    exact ⟨hname, hregular⟩

def InOrder (files : List (String × Entry)) : Prop :=
  files.Pairwise fun a b => Text.utf8Bytes a.1 < Text.utf8Bytes b.1

section Order
variable {listing listing' : List (String × Entry)}

theorem mem_descriptions {file : String × Entry} : file ∈ descriptions listing ↔ file ∈ listing ∧ Selected file := by
  rw [descriptions, List.mem_mergeSort, List.mem_filter, ← selected_iff]

theorem nameBefore_iff {a b : String × Entry} :
    nameBefore a b = true ↔ Text.utf8Bytes a.1 ≤ Text.utf8Bytes b.1 := by
  simp [nameBefore, List.not_lt]

theorem inOrder_descriptions (hn : (listing.map (·.1)).Nodup) : InOrder (descriptions listing) := by
  have hsorted : (descriptions listing).Pairwise fun a b => nameBefore a b = true := by
    apply List.pairwise_mergeSort
    · intro a b c hab hbc
      rw [nameBefore_iff] at hab hbc ⊢
      exact Std.le_trans hab hbc
    · intro a b
      rw [Bool.or_eq_true, nameBefore_iff, nameBefore_iff]
      exact List.le_total _ _
  have hapart : (descriptions listing).Pairwise fun a b => a.1 ≠ b.1 := by
    have hnodup : ((descriptions listing).map (·.1)).Nodup := by
      rw [descriptions, ((List.mergeSort_perm _ _).map _).nodup_iff]
      exact hn.sublist (List.filter_sublist.map _)
    exact List.pairwise_map.mp hnodup
  apply (hsorted.and hapart).imp
  rintro a b ⟨hle, hne⟩
  apply Std.lt_of_le_of_ne (nameBefore_iff.mp hle)
  intro hbytes
  exact hne (Text.utf8Bytes_inj hbytes)

theorem InOrder.nodup {files : List (String × Entry)} (h : InOrder files) : files.Nodup := by
  apply h.imp
  rintro a b hlt rfl
  exact List.lt_irrefl _ hlt

/-- There is one order for each set of files. -/
theorem InOrder.eq {files files' : List (String × Entry)} (h : InOrder files) (h' : InOrder files')
    (hsame : ∀ file, file ∈ files ↔ file ∈ files') : files = files' := by
  have hperm : files.Perm files' := (List.perm_ext_iff_of_nodup h.nodup h'.nodup).mpr hsame
  apply hperm.eq_of_pairwise _ h h'
  intro a b _ _ hab hba
  exact absurd hba (List.lt_asymm hab)

/-- Neither the order of a listing nor what does not describe a key has any influence. -/
theorem descriptions_eq (hn : (listing.map (·.1)).Nodup) (hn' : (listing'.map (·.1)).Nodup)
    (hsame : ∀ file, Selected file → (file ∈ listing' ↔ file ∈ listing)) :
    descriptions listing' = descriptions listing := by
  apply (inOrder_descriptions hn').eq (inOrder_descriptions hn)
  intro file
  rw [mem_descriptions, mem_descriptions]
  constructor
  · rintro ⟨hm, hs⟩
    exact ⟨(hsame file hs).mp hm, hs⟩
  · rintro ⟨hm, hs⟩
    exact ⟨(hsame file hs).mpr hm, hs⟩

end Order

end ValidatorSigner.Keys
