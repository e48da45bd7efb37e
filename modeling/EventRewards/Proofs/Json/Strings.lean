import EventRewards.Json.Reader
import EventRewards.Json.Writer
import Mathlib.Tactic.IntervalCases

/-!
# Strings in JSON texts

A string that is written is read back, whatever characters are in it: each is written as itself or as
an escape for it, and neither breaks the string off.
-/

namespace EventRewards
namespace Json
namespace Reader

variable (lenient : Bool) (fuel : Nat) (taken rest : List Char)

/-- A control is read from its escape. -/
theorem string?_escapedControl : ∀ n < 0x20,
    string? lenient (fuel + 1) taken (escapedChar (Char.ofNat n) ++ rest) =
      string? lenient fuel (Char.ofNat n :: taken) rest := by
  intro n hn
  interval_cases n
  all_goals rfl

theorem escapedChar_of_plain {c : Char} (control : ¬c.toNat < 0x20) (quote : c ≠ '"')
    (backslash : c ≠ '\\') : escapedChar c = [c] := by
  have hquote : c.toNat ≠ 0x22 := fun h => quote (Char.toNat_inj.1 h)
  have hbackslash : c.toNat ≠ 0x5C := fun h => backslash (Char.toNat_inj.1 h)
  rw [escapedChar]
  split
  case h_8 => rw [if_neg control]
  all_goals omega

/-- Each character is read from what is written for it. -/
theorem string?_escapedChar (c : Char) :
    string? lenient (fuel + 1) taken (escapedChar c ++ rest) =
      string? lenient fuel (c :: taken) rest := by
  by_cases hcontrol : c.toNat < 0x20
  · simpa only [Char.ofNat_toNat] using string?_escapedControl lenient fuel taken rest c.toNat hcontrol
  by_cases hquote : c = '"'
  · rw [hquote]
    rfl
  by_cases hbackslash : c = '\\'
  · rw [hbackslash]
    rfl
  rw [escapedChar_of_plain hcontrol hquote hbackslash, List.singleton_append]
  simp [string?, hcontrol, hbackslash]

/-- The characters of a string are read one after the other, up to the quote that closes it. -/
theorem string?_escaped {chars : List Char} (enough : chars.length ≤ fuel) :
    string? lenient fuel taken (chars.flatMap escapedChar ++ '"' :: rest) =
      some (String.ofList (taken.reverse ++ chars), rest) := by
  induction chars generalizing fuel taken with
  | nil => simp [string?]
  | cons c chars ih =>
    cases fuel with
    | zero => cases enough
    | succ fuel =>
      rw [List.flatMap_cons, List.append_assoc, string?_escapedChar,
        ih fuel (c :: taken) (Nat.le_of_succ_le_succ enough), List.reverse_cons, List.append_assoc,
        List.singleton_append]

/-- A value that starts with a quote is the string after it. -/
theorem value_string {limit : Option Nat} {outline : Outline} {depth : Nat} {after : List Char}
    {s : String} (h : string? outline.isNothing (rest.length + 1) [] rest = some (s, after)) :
    value limit outline depth ('"' :: rest) (fuel + 1) = .ok (.str s, after) := by
  have hscalar : scalar? outline.isNothing (rest.length + 1) ('"' :: rest) =
      some (.str s, after) := by
    simp only [scalar?, h, Option.map_some]
  simp [value, skipSpace, isSpace, hscalar]

end Reader

theorem length_escapedChar_pos (c : Char) : 1 ≤ (escapedChar c).length := by
  rw [escapedChar]
  split
  case h_8 =>
    split_ifs
    · exact Nat.le_add_left 1 _
    · exact Nat.le_refl 1
  all_goals exact Nat.le_add_left 1 1

theorem length_le_escaped (chars : List Char) :
    chars.length ≤ (chars.flatMap escapedChar).length := by
  induction chars with
  | nil => exact Nat.le_refl 0
  | cons c chars ih =>
    have hc := length_escapedChar_pos c
    rw [List.flatMap_cons, List.length_append, List.length_cons]
    omega

/-- A string is read from the text that is written for it, however texts are read. -/
theorem read_compact_str (options : ReadOptions) (s : String) :
    read options (Json.str s).compact = .whole (.str s) := by
  have hchars : (quote s).toList = '"' :: (s.toList.flatMap escapedChar ++ ['"']) := by
    simp only [quote, String.toList_ofList, List.cons_append]
  have henough : s.toList.length ≤ (s.toList.flatMap escapedChar ++ ['"']).length + 1 := by
    have hlength := length_le_escaped s.toList
    rw [List.length_append]
    omega
  have hstring := Reader.string?_escaped options.outline.isNothing _ [] [] henough
  rw [List.reverse_nil, List.nil_append, String.ofList_toList] at hstring
  simp only [compact, read, hchars, Reader.value_string _ _ hstring]
  rfl

end Json
end EventRewards
