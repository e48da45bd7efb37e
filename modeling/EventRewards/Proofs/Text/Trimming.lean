import EventRewards.Text.Blank
import Mathlib.Data.List.TakeWhile

/-!
# Trimming

Trimming takes blanks off both ends of a text and nothing else, so that two texts are trimmed alike
if and only if they differ in such blanks only.
-/

namespace EventRewards
namespace Text

/-- Whether a text is made of some characters and of blanks before and after them. -/
def Around (inside : List Char) (s : String) : Prop :=
  ∃ before after : List Char, (∀ c ∈ before, isBlank c = true) ∧ (∀ c ∈ after, isBlank c = true) ∧
    s.toList = before ++ inside ++ after

/-- Whether two texts are the same but for blanks at their ends. -/
def SameInside (a b : String) : Prop :=
  ∃ inside, Around inside a ∧ Around inside b

/-- Blanks around some characters make no difference to what is left of them. -/
theorem trimChars_around {before inside after : List Char} (front : ∀ c ∈ before, isBlank c = true)
    (back : ∀ c ∈ after, isBlank c = true) :
    trimChars (before ++ inside ++ after) = trimChars inside := by
  have hback : ∀ c ∈ after.reverse, isBlank c = true := by simpa using back
  unfold trimChars
  rw [List.append_assoc, List.dropWhile_append_of_pos front, List.dropWhile_append]
  by_cases h : (inside.dropWhile isBlank).isEmpty
  · -- where all characters are blank, nothing is left of them
    have hinside : inside.dropWhile isBlank = [] := by simpa using h
    have hafter : after.dropWhile isBlank = [] := List.dropWhile_eq_nil_iff.2 back
    simp [hinside, hafter]
  · rw [if_neg h, List.reverse_append, List.dropWhile_append_of_pos hback]

theorem trim_of_around {inside : List Char} {s : String} (h : Around inside s) :
    trim s = String.ofList (trimChars inside) := by
  rcases h with ⟨before, after, hfront, hback, hs⟩
  rw [trim, hs, trimChars_around hfront hback]

/-- What is left of a text stands in it between blanks. -/
theorem around_trimChars (s : String) : Around (trimChars s.toList) s := by
  refine ⟨s.toList.takeWhile isBlank,
    ((s.toList.dropWhile isBlank).reverse.takeWhile isBlank).reverse, ?_, ?_, ?_⟩
  · intro c hc
    exact List.mem_takeWhile_imp hc
  · intro c hc
    exact List.mem_takeWhile_imp (List.mem_reverse.1 hc)
  · rw [trimChars, List.append_assoc, ← List.reverse_append, List.takeWhile_append_dropWhile,
      List.reverse_reverse, List.takeWhile_append_dropWhile]

theorem trim_eq_trim_iff {a b : String} : trim a = trim b ↔ SameInside a b := by
  constructor
  · intro h
    have hchars : trimChars a.toList = trimChars b.toList := String.ofList_inj.1 h
    refine ⟨trimChars b.toList, ?_, around_trimChars b⟩
    rw [← hchars]
    exact around_trimChars a
  · rintro ⟨inside, ha, hb⟩
    rw [trim_of_around ha, trim_of_around hb]

/-- A text is blank exactly when nothing is left of it. -/
theorem trim_eq_empty_iff {s : String} : trim s = "" ↔ isBlankText s = true := by
  have hblank : isBlankText s = true ↔ ∀ c ∈ s.toList, isBlank c = true := List.all_eq_true
  rw [hblank]
  constructor
  · intro h
    have hnothing : trimChars s.toList = [] := String.ofList_eq_empty_iff.1 h
    rcases around_trimChars s with ⟨before, after, hfront, hback, hs⟩
    rw [hnothing, List.append_nil] at hs
    rw [hs]
    exact List.forall_mem_append.2 ⟨hfront, hback⟩
  · intro h
    have haround : Around [] s := ⟨s.toList, [], h, by simp, by simp⟩
    rw [trim_of_around haround]
    rfl

/-- A trimmed text is its own trimming. -/
theorem trim_trim (s : String) : trim (trim s) = trim s := by
  have hself : Around (trimChars s.toList) (trim s) := ⟨[], [], by simp, by simp, by simp [trim]⟩
  exact trim_eq_trim_iff.2 ⟨_, hself, around_trimChars s⟩

end Text
end EventRewards
