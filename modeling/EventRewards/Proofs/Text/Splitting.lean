import EventRewards.Text.Blank

/-!
# Splitting texts

Splitting at a separator undoes setting pieces side by side with it in between, as long as no piece
holds the separator itself.
-/

namespace EventRewards
namespace Text

theorem splitOnChar_eq_splitOn (sep : Char) (cs : List Char) :
    splitOnChar sep cs = cs.splitOn sep := by
  induction cs with
  | nil => rfl
  | cons c rest ih =>
    have hrest : splitOnChar sep rest ≠ [] := ih ▸ List.splitOn_ne_nil sep rest
    rw [splitOnChar, List.splitOn, List.splitOnP_cons_eq_if_modifyHead, ← List.splitOn, ← ih]
    by_cases h : c = sep
    · simp [h]
    · cases hpieces : splitOnChar sep rest with
      | nil => exact absurd hpieces hrest
      | cons piece pieces => simp [h]

theorem not_mem_of_mem_splitOnChar {sep : Char} {cs piece : List Char}
    (h : piece ∈ splitOnChar sep cs) : sep ∉ piece := by
  induction cs generalizing piece with
  | nil => simp_all [splitOnChar]
  | cons c rest ih =>
    rw [splitOnChar] at h
    by_cases hsep : c = sep
    · rw [if_pos hsep] at h
      rcases List.mem_cons.1 h with rfl | hrest
      · exact List.not_mem_nil
      · exact ih hrest
    · rw [if_neg hsep] at h
      cases hpieces : splitOnChar sep rest with
      | nil =>
        rw [hpieces] at h
        have hpiece : piece = [c] := List.mem_singleton.1 h
        simp [hpiece, Ne.symm hsep]
      | cons first others =>
        rw [hpieces] at h ih
        rcases List.mem_cons.1 h with rfl | hothers
        · have hfirst : sep ∉ first := ih List.mem_cons_self
          simp [hfirst, Ne.symm hsep]
        · exact ih (List.mem_cons_of_mem _ hothers)

/-- Splitting undoes setting side by side, of one piece at least and of pieces without the separator. -/
theorem splitOnChar_eq_iff {sep : Char} {cs : List Char} {pieces : List (List Char)} :
    splitOnChar sep cs = pieces ↔
      pieces ≠ [] ∧ (∀ piece ∈ pieces, sep ∉ piece) ∧ [sep].intercalate pieces = cs := by
  constructor
  · rintro rfl
    refine ⟨?_, fun piece => not_mem_of_mem_splitOnChar, ?_⟩
    · rw [splitOnChar_eq_splitOn]
      exact List.splitOn_ne_nil sep cs
    · rw [splitOnChar_eq_splitOn]
      exact List.intercalate_splitOn sep
  · rintro ⟨hsome, hpieces, rfl⟩
    rw [splitOnChar_eq_splitOn]
    exact List.splitOn_intercalate sep hpieces hsome

section Piece

variable {sep : Char} {piece : List Char}

/-- A piece before a separator is split off, and what comes after that is split further. -/
theorem splitOnChar_append (apart : sep ∉ piece) (rest : List Char) :
    splitOnChar sep (piece ++ sep :: rest) = piece :: splitOnChar sep rest := by
  induction piece with
  | nil => simp [splitOnChar]
  | cons c piece ih =>
    rw [List.mem_cons, not_or] at apart
    rw [List.cons_append, splitOnChar, if_neg (Ne.symm apart.1), ih apart.2]

theorem splitFirst_append (apart : sep ∉ piece) (rest : List Char) :
    splitFirst sep (piece ++ sep :: rest) = (piece, some rest) := by
  have hpass : ∀ c ∈ piece, (c != sep) = true := by
    intro c hc
    exact bne_iff_ne.2 fun h => apart (h ▸ hc)
  simp [splitFirst, List.takeWhile_append_of_pos hpass, List.dropWhile_append_of_pos hpass]

end Piece

end Text
end EventRewards
