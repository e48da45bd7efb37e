import EventRewards.Text.Case
import Mathlib.Data.List.TakeWhile

/-!
# Lower case of a part

The lower case of a text is put together from those of its characters, all of which are lowered alike
wherever they stand, but for capital sigmas.  So the lower case of a part of a text stands in that of
the whole text, where its sigmas end words in the part exactly if they do so in the text.
-/

namespace EventRewards
namespace Text

/-! ## Sigmas -/

/-- Whether a sigma ends a word, between the characters before it, nearest first, and those after. -/
def endsWord (before after : List Char) : Bool :=
  reachesCased before && !reachesCased after

/-- Whether each capital sigma of a text ends a word there exactly if it does so with more text before
and after. -/
def KeepsSigmas (before text after : List Char) : Prop :=
  ∀ front back, text = front ++ 'Σ' :: back →
    endsWord (front.reverse ++ before.reverse) (back ++ after) = endsWord front.reverse back

/-- Behind characters that are not all ignorable, what comes next does not matter. -/
theorem reachesCased_append (cs ds : List Char) :
    reachesCased (cs ++ ds) = if cs.all isIgnorable then reachesCased ds else reachesCased cs := by
  induction cs with
  | nil => rfl
  | cons c rest ih =>
    by_cases h : isIgnorable c = true
    · simpa [reachesCased, h] using ih
    · simp [reachesCased, h]

theorem reachesCased_of_all {cs : List Char} (h : cs.all isIgnorable = true) :
    reachesCased cs = false := by
  rw [reachesCased, List.dropWhile_eq_nil_iff.2 (List.all_eq_true.1 h)]

/-- Text that does not go on with the word makes no difference. -/
theorem reachesCased_append_of_apart {cs ds : List Char} (apart : reachesCased ds = false) :
    reachesCased (cs ++ ds) = reachesCased cs := by
  rw [reachesCased_append]
  split
  · next hall => rw [apart, reachesCased_of_all hall]
  · rfl

theorem keepsSigmas_of_notMem {before text after : List Char} (none : 'Σ' ∉ text) :
    KeepsSigmas before text after := by
  rintro front back rfl
  exact absurd (List.mem_append_right front List.mem_cons_self) none

/-- A part that is cut off at the ends of words keeps its sigmas. -/
theorem keepsSigmas_of_apart {before text after : List Char}
    (front : reachesCased before.reverse = false) (back : reachesCased after = false) :
    KeepsSigmas before text after := by
  intro inner rest _
  rw [endsWord, endsWord, reachesCased_append_of_apart front, reachesCased_append_of_apart back]

/-! ## Lowering a part -/

/-- The lower case of a part of a text, between the characters before it, nearest first, and those
after. -/
def lowerWithin (before : List Char) : List Char → List Char → List Char
  | [], _ => []
  | c :: rest, after =>
    let lowered :=
      if c = 'Σ' then
        if endsWord before (rest ++ after) then ['ς'] else ['σ']
      else lowerChar c
    lowered ++ lowerWithin (c :: before) rest after

theorem lowerAfter_eq (before cs : List Char) : lowerAfter before cs = lowerWithin before cs [] := by
  induction cs generalizing before with
  | nil => rfl
  | cons c rest ih => rw [lowerAfter, lowerWithin, ih, endsWord, List.append_nil]

/-- A text is lowered part by part, each between the others. -/
theorem lowerWithin_append (before cs ds after : List Char) :
    lowerWithin before (cs ++ ds) after =
      lowerWithin before cs (ds ++ after) ++ lowerWithin (cs.reverse ++ before) ds after := by
  induction cs generalizing before with
  | nil => rfl
  | cons c rest ih =>
    rw [List.cons_append, lowerWithin, lowerWithin, ih, List.append_assoc rest, List.append_assoc,
      List.reverse_cons, List.append_assoc, List.singleton_append]

/-- Two surroundings in which each sigma takes the same form make no difference.  The induction is on
the part, the characters passed being put to those before. -/
theorem lowerWithin_congr {text before before' after after' : List Char}
    (same : ∀ front back, text = front ++ 'Σ' :: back →
      endsWord (front.reverse ++ before) (back ++ after) =
        endsWord (front.reverse ++ before') (back ++ after')) :
    lowerWithin before text after = lowerWithin before' text after' := by
  induction text generalizing before before' with
  | nil => rfl
  | cons c rest ih =>
    have hrest : lowerWithin (c :: before) rest after = lowerWithin (c :: before') rest after' := by
      apply ih
      rintro front back rfl
      simpa using same (c :: front) back rfl
    rw [lowerWithin, lowerWithin, hrest]
    by_cases hsigma : c = 'Σ'
    · subst hsigma
      have hform : endsWord before (rest ++ after) = endsWord before' (rest ++ after') :=
        same [] rest rfl
      rw [hform]
    · simp only [if_neg hsigma]

/-- The lower case of a part that keeps its sigmas stands in the lower case of the whole text. -/
theorem lowerChars_infix {before text after : List Char} (keeps : KeepsSigmas before text after) :
    lowerChars text <:+: lowerChars (before ++ text ++ after) := by
  have hpart : lowerWithin before.reverse text after = lowerChars text := by
    rw [lowerChars, lowerAfter_eq]
    refine lowerWithin_congr fun front back heq => ?_
    rw [keeps front back heq, List.append_nil, List.append_nil]
  refine ⟨lowerWithin [] before (text ++ after),
    lowerWithin (text.reverse ++ before.reverse) after [], ?_⟩
  calc
    lowerWithin [] before (text ++ after) ++ lowerChars text ++
          lowerWithin (text.reverse ++ before.reverse) after [] =
        lowerWithin [] before (text ++ after) ++ (lowerWithin before.reverse text after ++
          lowerWithin (text.reverse ++ before.reverse) after []) := by
      rw [hpart, List.append_assoc]
    _ = lowerWithin [] (before ++ (text ++ after)) [] := by
      simp only [lowerWithin_append, List.append_nil]
    _ = lowerChars (before ++ text ++ after) := by
      rw [lowerChars, lowerAfter_eq, List.append_assoc]

/-! ## Finding a part -/

theorem occursIn_iff {needle cs : List Char} : occursIn needle cs = true ↔ needle <:+: cs := by
  induction cs with
  | nil => simp [occursIn]
  | cons c rest ih =>
    rw [occursIn, Bool.or_eq_true, List.isPrefixOf_iff_prefix, ih, List.infix_cons_iff]

/-- A part that keeps its sigmas is found, letter case aside. -/
theorem containsFolded_of_keepsSigmas {before text after : String}
    (keeps : KeepsSigmas before.toList text.toList after.toList) :
    containsFolded text (before ++ text ++ after) = true := by
  rw [containsFolded, occursIn_iff, String.toList_append, String.toList_append]
  exact lowerChars_infix keeps

end Text
end EventRewards
