/-!
# UTF-8

Bytes to characters and back.  `decode?` takes well-formed bytes only; `decodeLossy` puts U+FFFD in
the place of each longest stretch that starts a character and does not finish it, and of each byte
that starts none.
-/

namespace EventRewards
namespace Utf8

/-- What the first byte of a character asks for: how many bytes follow, its own share of the code
point, and the least and greatest second byte. -/
structure Lead where
  following : Nat
  share : Nat
  least : Nat
  greatest : Nat

def lead? (b : Nat) : Option Lead :=
  if b < 0x80 then some ⟨0, b, 0x80, 0xBF⟩
  else if 0xC2 ≤ b && b ≤ 0xDF then some ⟨1, b - 0xC0, 0x80, 0xBF⟩
  -- the bounds of the second byte leave out overlong forms, surrogates and what is too large
  else if b = 0xE0 then some ⟨2, 0, 0xA0, 0xBF⟩
  else if b = 0xED then some ⟨2, 0xD, 0x80, 0x9F⟩
  else if 0xE1 ≤ b && b ≤ 0xEF then some ⟨2, b - 0xE0, 0x80, 0xBF⟩
  else if b = 0xF0 then some ⟨3, 0, 0x90, 0xBF⟩
  else if 0xF1 ≤ b && b ≤ 0xF3 then some ⟨3, b - 0xF0, 0x80, 0xBF⟩
  else if b = 0xF4 then some ⟨3, 4, 0x80, 0x8F⟩
  else none

/-- A character begun and not yet finished. -/
structure Pending where
  owed : Nat
  share : Nat
  least : Nat
  greatest : Nat

/-- Decodes byte by byte; `none` in the output marks a malformed stretch. -/
def decodeFrom (pending : Option Pending) : List UInt8 → List (Option Char)
  | [] => if pending.isSome then [none] else []
  | byte :: rest =>
    let b := byte.toNat
    let start : List (Option Char) → List (Option Char) := fun marks =>
      match lead? b with
      | none => marks ++ none :: decodeFrom none rest
      | some l =>
        if l.following = 0 then marks ++ some (Char.ofNat l.share) :: decodeFrom none rest
        else marks ++ decodeFrom (some ⟨l.following, l.share, l.least, l.greatest⟩) rest
    match pending with
    | none => start []
    | some p =>
      if p.least ≤ b && b ≤ p.greatest then
        let share := p.share * 0x40 + (b - 0x80)
        if p.owed = 1 then some (Char.ofNat share) :: decodeFrom none rest
        else decodeFrom (some ⟨p.owed - 1, share, 0x80, 0xBF⟩) rest
      -- the byte ends a malformed stretch and may begin a character itself
      else start [none]

def decode? (bytes : List UInt8) : Option (List Char) :=
  (decodeFrom none bytes).mapM id

/-- The characters of any bytes, U+FFFD for each malformed stretch. -/
def decodeLossy (bytes : List UInt8) : List Char :=
  (decodeFrom none bytes).map (·.getD (Char.ofNat 0xFFFD))

def encodeChar (c : Char) : List UInt8 :=
  let n := c.toNat
  let tail (k : Nat) : UInt8 := UInt8.ofNat (0x80 + n / Nat.pow 64 k % 64)
  if n < 0x80 then [UInt8.ofNat n]
  else if n < 0x800 then [UInt8.ofNat (0xC0 + n / 64), tail 0]
  else if n < 0x10000 then [UInt8.ofNat (0xE0 + n / Nat.pow 64 2), tail 1, tail 0]
  else [UInt8.ofNat (0xF0 + n / Nat.pow 64 3), tail 2, tail 1, tail 0]

def encode (cs : List Char) : List UInt8 :=
  cs.flatMap encodeChar

end Utf8
end EventRewards
