import EventRewards.Text.Utf8
import Mathlib.Algebra.Order.Group.Nat

/-!
# Reading UTF-8 back

The bytes of a character are one that says how many follow and begins its code point, and then those
that follow, each with six more bits of it.  Reading them back, with whatever comes behind, gives the
character again, so that a text is what its bytes are read as.
-/

namespace EventRewards
namespace Utf8

/-! ## Bytes that follow -/

/-- The last bytes of a code point, each with six bits of it. -/
def continuation (n : Nat) : Nat → List UInt8
  | 0 => []
  | k + 1 => UInt8.ofNat (0x80 + n / 64 ^ k % 64) :: continuation n k

theorem toNat_ofNat_of_lt {n : Nat} (h : n < 256) : (UInt8.ofNat n).toNat = n :=
  Nat.mod_eq_of_lt h

theorem decodeFrom_none {byte : UInt8} {l : Lead} (lead : lead? byte.toNat = some l)
    (rest : List UInt8) :
    decodeFrom none (byte :: rest) =
      if l.following = 0 then some (Char.ofNat l.share) :: decodeFrom none rest
      else decodeFrom (some ⟨l.following, l.share, l.least, l.greatest⟩) rest := by
  rw [decodeFrom]
  simp only [lead, List.nil_append]

/-- What a character begun makes of a byte that it allows. -/
theorem decodeFrom_some {p : Pending} {byte : UInt8} (above : p.least ≤ byte.toNat)
    (below : byte.toNat ≤ p.greatest) (rest : List UInt8) :
    decodeFrom (some p) (byte :: rest) =
      if p.owed = 1 then
        some (Char.ofNat (p.share * 0x40 + (byte.toNat - 0x80))) :: decodeFrom none rest
      else
        decodeFrom (some ⟨p.owed - 1, p.share * 0x40 + (byte.toNat - 0x80), 0x80, 0xBF⟩) rest := by
  rw [decodeFrom]
  simp [above, below]

/-- The bytes that follow finish the code point that was begun.  The induction is on their number:
each byte puts six bits behind the share that was read before it. -/
theorem decodeFrom_continuation {n k least greatest : Nat}
    (above : least ≤ 0x80 + n / 64 ^ k % 64) (below : 0x80 + n / 64 ^ k % 64 ≤ greatest)
    (rest : List UInt8) :
    decodeFrom (some ⟨k + 1, n / 64 ^ (k + 1), least, greatest⟩) (continuation n (k + 1) ++ rest) =
      some (Char.ofNat n) :: decodeFrom none rest := by
  induction k generalizing least greatest with
  | zero =>
    have hbyte := toNat_ofNat_of_lt (n := 0x80 + n / 64 ^ 0 % 64) (by omega)
    have hshare : n / 64 ^ 1 * 0x40 + (0x80 + n / 64 ^ 0 % 64 - 0x80) = n := by omega
    rw [continuation, List.cons_append, decodeFrom_some (hbyte.symm ▸ above) (hbyte.symm ▸ below),
      if_pos rfl, hbyte, hshare]
    rfl
  | succ k ih =>
    have hbyte := toNat_ofNat_of_lt (n := 0x80 + n / 64 ^ (k + 1) % 64) (by omega)
    have hshare : n / 64 ^ (k + 1 + 1) * 0x40 + (0x80 + n / 64 ^ (k + 1) % 64 - 0x80) =
        n / 64 ^ (k + 1) := by
      rw [Nat.pow_succ 64 (k + 1), ← Nat.div_div_eq_div_mul]
      omega
    rw [continuation, List.cons_append, decodeFrom_some (hbyte.symm ▸ above) (hbyte.symm ▸ below),
      if_neg (by simp), hbyte, hshare]
    exact ih (by omega) (by omega)

/-! ## Characters -/

/-- Whether a byte begins a code point of which some more bytes follow: it asks for that many, has the
first bits, and allows the byte that comes next. -/
structure Begins (byte n k : Nat) (l : Lead) : Prop where
  lead : lead? byte = some l
  following : l.following = k
  share : l.share = n / 64 ^ k
  allows : ∀ j, k = j + 1 → l.least ≤ 0x80 + n / 64 ^ j % 64 ∧ 0x80 + n / 64 ^ j % 64 ≤ l.greatest

section Sizes

variable {n : Nat}

theorem exists_begins {byte k least greatest : Nat}
    (lead : lead? byte = some ⟨k + 1, n / 64 ^ (k + 1), least, greatest⟩)
    (above : least ≤ 0x80 + n / 64 ^ k % 64) (below : 0x80 + n / 64 ^ k % 64 ≤ greatest) :
    ∃ l, Begins byte n (k + 1) l := by
  refine ⟨_, lead, rfl, rfl, ?_⟩
  rintro j ⟨⟩
  exact ⟨above, below⟩

theorem begins_one (h : n < 0x80) : ∃ l, Begins n n 0 l := by
  have hlead : lead? n = some ⟨0, n, 0x80, 0xBF⟩ := by simp [lead?, h]
  exact ⟨_, hlead, rfl, by simp, by simp⟩

theorem begins_two (least : 0x80 ≤ n) (h : n < 0x800) :
    ∃ l, Begins (0xC0 + n / 64 ^ 1) n 1 l := by
  have hlead : lead? (0xC0 + n / 64 ^ 1) = some ⟨1, n / 64 ^ 1, 0x80, 0xBF⟩ := by grind [lead?]
  exact exists_begins hlead (by omega) (by omega)

/-- The bounds of the second byte leave out what two bytes are enough for, and surrogates. -/
theorem begins_three (least : 0x800 ≤ n) (h : n < 0x10000) (valid : n < 0xD800 ∨ 0xDFFF < n) :
    ∃ l, Begins (0xE0 + n / 64 ^ 2) n 2 l := by
  by_cases hfirst : n / 64 ^ 2 = 0
  · have hlead : lead? (0xE0 + n / 64 ^ 2) = some ⟨2, n / 64 ^ 2, 0xA0, 0xBF⟩ := by
      rw [hfirst]
      rfl
    exact exists_begins hlead (by omega) (by omega)
  by_cases hlast : n / 64 ^ 2 = 0xD
  · have hlead : lead? (0xE0 + n / 64 ^ 2) = some ⟨2, n / 64 ^ 2, 0x80, 0x9F⟩ := by
      rw [hlast]
      rfl
    exact exists_begins hlead (by omega) (by omega)
  · have hlead : lead? (0xE0 + n / 64 ^ 2) = some ⟨2, n / 64 ^ 2, 0x80, 0xBF⟩ := by grind [lead?]
    exact exists_begins hlead (by omega) (by omega)

/-- The bounds of the second byte leave out what three bytes are enough for, and what is too large. -/
theorem begins_four (least : 0x10000 ≤ n) (h : n < 0x110000) :
    ∃ l, Begins (0xF0 + n / 64 ^ 3) n 3 l := by
  by_cases hfirst : n / 64 ^ 3 = 0
  · have hlead : lead? (0xF0 + n / 64 ^ 3) = some ⟨3, n / 64 ^ 3, 0x90, 0xBF⟩ := by
      rw [hfirst]
      rfl
    exact exists_begins hlead (by omega) (by omega)
  by_cases hlast : n / 64 ^ 3 = 4
  · have hlead : lead? (0xF0 + n / 64 ^ 3) = some ⟨3, n / 64 ^ 3, 0x80, 0x8F⟩ := by
      rw [hlast]
      rfl
    exact exists_begins hlead (by omega) (by omega)
  · have hlead : lead? (0xF0 + n / 64 ^ 3) = some ⟨3, n / 64 ^ 3, 0x80, 0xBF⟩ := by grind [lead?]
    exact exists_begins hlead (by omega) (by omega)

end Sizes

/-- The bytes of a character: one that begins it, and those that follow. -/
theorem encodeChar_eq (c : Char) :
    ∃ byte k l, Begins byte c.toNat k l ∧ byte < 256 ∧
      encodeChar c = UInt8.ofNat byte :: continuation c.toNat k := by
  have hvalid : c.toNat < 0xD800 ∨ 0xDFFF < c.toNat ∧ c.toNat < 0x110000 := c.valid
  rcases Nat.lt_or_ge c.toNat 0x80 with h1 | h1
  · rcases begins_one h1 with ⟨l, hl⟩
    refine ⟨_, 0, l, hl, by omega, ?_⟩
    simp [encodeChar, h1, continuation]
  rcases Nat.lt_or_ge c.toNat 0x800 with h2 | h2
  · rcases begins_two h1 h2 with ⟨l, hl⟩
    refine ⟨_, 1, l, hl, by omega, ?_⟩
    simp [encodeChar, h2, Nat.not_lt.2 h1, continuation]
  rcases Nat.lt_or_ge c.toNat 0x10000 with h3 | h3
  · rcases begins_three h2 h3 (by omega) with ⟨l, hl⟩
    refine ⟨_, 2, l, hl, by omega, ?_⟩
    simp [encodeChar, h3, Nat.not_lt.2 h1, Nat.not_lt.2 h2, continuation]
  · rcases begins_four h3 (by omega) with ⟨l, hl⟩
    refine ⟨_, 3, l, hl, by omega, ?_⟩
    simp [encodeChar, Nat.not_lt.2 h1, Nat.not_lt.2 h2, Nat.not_lt.2 h3, continuation]

theorem decodeFrom_encodeChar (c : Char) (rest : List UInt8) :
    decodeFrom none (encodeChar c ++ rest) = some c :: decodeFrom none rest := by
  rcases encodeChar_eq c with ⟨byte, k, l, hbegins, hbyte, hbytes⟩
  have hlead : lead? (UInt8.ofNat byte).toNat = some l := by
    rw [toNat_ofNat_of_lt hbyte, hbegins.lead]
  rw [hbytes, List.cons_append, decodeFrom_none hlead, hbegins.following, hbegins.share]
  cases k with
  | zero => simp [continuation]
  | succ k =>
    rcases hbegins.allows k rfl with ⟨habove, hbelow⟩
    rw [if_neg (Nat.succ_ne_zero k), decodeFrom_continuation habove hbelow, Char.ofNat_toNat]

theorem decodeFrom_encode (cs : List Char) : decodeFrom none (encode cs) = cs.map some := by
  induction cs with
  | nil => rfl
  | cons c rest ih =>
    calc
      decodeFrom none (encode (c :: rest)) = decodeFrom none (encodeChar c ++ encode rest) := rfl
      _ = some c :: decodeFrom none (encode rest) := decodeFrom_encodeChar c (encode rest)
      _ = (c :: rest).map some := by rw [ih, List.map_cons]

/-- A text is what its bytes are read as: nothing in them is malformed, so nothing is repaired. -/
theorem decodeLossy_encode (cs : List Char) : decodeLossy (encode cs) = cs := by
  rw [decodeLossy, decodeFrom_encode, List.map_map]
  exact List.map_id cs

end Utf8
end EventRewards
