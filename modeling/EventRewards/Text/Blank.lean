/-!
# Blank characters and trimming

The blank characters are those of Unicode's `White_Space` property.  Trimming drops them from both
ends of a text; a text that trims to nothing is blank.
-/

namespace EventRewards
namespace Text

/-- The characters with the `White_Space` property. -/
def isBlank (c : Char) : Bool :=
  let n := c.toNat
  (9 ≤ n && n ≤ 13) || n == 0x20 || n == 0x85 || n == 0xA0 || n == 0x1680 ||
    (0x2000 ≤ n && n ≤ 0x200A) || n == 0x2028 || n == 0x2029 || n == 0x202F || n == 0x205F ||
    n == 0x3000

/-- The characters left after blanks are dropped from both ends. -/
def trimChars (cs : List Char) : List Char :=
  ((cs.dropWhile isBlank).reverse.dropWhile isBlank).reverse

def trim (s : String) : String :=
  String.ofList (trimChars s.toList)

def isBlankText (s : String) : Bool :=
  s.toList.all isBlank

/-! ## Splitting -/

/-- The pieces of a text between the occurrences of a separator: one more than those. -/
def splitOnChar (sep : Char) : List Char → List (List Char)
  | [] => [[]]
  | c :: rest =>
    if c = sep then [] :: splitOnChar sep rest
    else
      match splitOnChar sep rest with
      | [] => [[c]]
      | piece :: pieces => (c :: piece) :: pieces

/-- What stands before the first occurrence of a separator, and what stands after it. -/
def splitFirst (sep : Char) (cs : List Char) : List Char × Option (List Char) :=
  let head := cs.takeWhile (· != sep)
  match cs.dropWhile (· != sep) with
  | [] => (head, none)
  | _ :: tail => (head, some tail)

/-- Texts set side by side with a separator between neighbours. -/
def joinWith (sep : String) (parts : List String) : String :=
  sep.intercalate parts

end Text
end EventRewards
