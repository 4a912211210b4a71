import Mathlib.Data.String.Basic
import ValidatorSigner.Text.Utf8

/-! # The parts of a text

A text is cut at each place where a character stands. Its bytes tell it from all others.
-/
namespace ValidatorSigner.Text
open String

theorem utf8Bytes_inj {a b : String} (h : utf8Bytes a = utf8Bytes b) : a = b := by
  have hbytes : a.toList.utf8Encode = b.toList.utf8Encode := congrArg List.toByteArray h
  rw [utf8Encode_toList, utf8Encode_toList] at hbytes
  exact toByteArray_inj.mp hbytes

/-- Behind `l` lies the part `m` that has been read so far, and nothing of `r` has been looked at. -/
theorem splitOnAux_char (c : Char) (l m r : List Char) (parts : List String) :
    splitOnAux (ofList (l ++ m ++ r)) (ofList [c]) ⟨utf8Len l⟩ ⟨utf8Len l + utf8Len m⟩ 0 parts =
      parts.reverse ++ (List.splitOnPPrepend (· == c) r m.reverse).map ofList := by
  induction r generalizing l m parts with
  | nil =>
    unfold splitOnAux
    have hend : Pos.Raw.atEnd (ofList (l ++ m ++ [])) ⟨utf8Len l + utf8Len m⟩ = true := by
      simp [atEnd_iff, -ofList_append]
    rw [if_pos hend, extract_of_valid]
    simp
  | cons d rest ih =>
    have hmore : ¬ Pos.Raw.atEnd (ofList (l ++ m ++ d :: rest)) ⟨utf8Len l + utf8Len m⟩ = true := by
      have hd := d.utf8Size_pos
      simp [atEnd_iff, -ofList_append]
      omega
    have hget : Pos.Raw.get (ofList (l ++ m ++ d :: rest)) ⟨utf8Len l + utf8Len m⟩ = d := by
      simpa [-ofList_append] using get_of_valid (l ++ m) (d :: rest)
    have hnext : Pos.Raw.next (ofList (l ++ m ++ d :: rest)) ⟨utf8Len l + utf8Len m⟩ =
        ⟨utf8Len l + utf8Len m + d.utf8Size⟩ := by
      simpa [-ofList_append] using next_of_valid (l ++ m) d rest
    have hsep : Pos.Raw.get (ofList [c]) 0 = c := get_of_valid [] [c]
    have hsepNext : Pos.Raw.next (ofList [c]) 0 = ⟨c.utf8Size⟩ := by simpa using next_of_valid [] c []
    unfold splitOnAux
    rw [if_neg hmore, hget, hsep]
    by_cases hd : d = c
    · subst hd
      have hsepEnd : Pos.Raw.atEnd (ofList [d]) ⟨d.utf8Size⟩ = true := by
        rw [atEnd_iff, rawEndPos_ofList]
        simp
      have hback : Pos.Raw.unoffsetBy ⟨utf8Len l + utf8Len m + d.utf8Size⟩ ⟨d.utf8Size⟩ =
          ⟨utf8Len l + utf8Len m⟩ := by
        simp [Pos.Raw.unoffsetBy]
      have hrest := ih (l ++ m ++ [d]) [] (ofList m :: parts)
      simp only [List.append_assoc, List.cons_append, List.nil_append, List.append_nil, utf8Len_append, utf8Len_cons,
        utf8Len_nil, Nat.zero_add, Nat.add_zero, ← Nat.add_assoc] at hrest
      rw [if_pos (beq_self_eq_true d)]
      dsimp only
      rw [hnext, hsepNext, if_pos hsepEnd, hback, extract_of_valid, List.splitOnPPrepend_cons_eq_if,
        if_pos (beq_self_eq_true d), List.splitOnP_eq_splitOnPPrepend, List.append_assoc]
      simpa [-ofList_append] using hrest
    · have hrest := ih l (m ++ [d]) parts
      simp only [List.append_assoc, List.cons_append, List.nil_append, utf8Len_append, utf8Len_cons,
        utf8Len_nil, Nat.zero_add, ← Nat.add_assoc] at hrest
      have hback : Pos.Raw.unoffsetBy ⟨utf8Len l + utf8Len m⟩ 0 = ⟨utf8Len l + utf8Len m⟩ := rfl
      rw [if_neg (by simp [hd]), hback, hnext, List.splitOnPPrepend_cons_eq_if, if_neg (by simp [hd]),
        List.append_assoc]
      simpa [-ofList_append] using hrest

theorem splitOn_char (text : String) (c : Char) :
    text.splitOn (ofList [c]) = (text.toList.splitOn c).map ofList := by
  have haux := splitOnAux_char c [] [] text.toList []
  have hsep : ¬ (ofList [c] == "") = true := by simp
  unfold splitOn
  rw [if_neg hsep]
  simpa [List.splitOn_eq_splitOnP] using haux

end ValidatorSigner.Text
