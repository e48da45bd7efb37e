import EventRewards.Http.Query
import EventRewards.Proofs.Text.Splitting
import EventRewards.Proofs.Text.Utf8

/-!
# Escaping texts

Any text can be sent as a value in a query: each of its bytes is written as a percent sign with two
digits in base sixteen.  Nothing in such a value means anything else in a query, and reading it gives
the text.
-/

namespace EventRewards
namespace Http

/-- A percent sign and two digits in base sixteen for a byte. -/
def escapeByte (b : UInt8) : List Char :=
  ['%', Nat.digitChar (b.toNat / 16), Nat.digitChar (b.toNat % 16)]

/-- A text as a value in a query. -/
def escape (s : String) : List Char :=
  (Utf8.encode s.toList).flatMap escapeByte

/-! ## Digits -/

theorem isAlphanum_digitChar : ∀ n < 16, (Nat.digitChar n).isAlphanum = true := by
  decide

theorem encodeChar_digitChar :
    ∀ n < 16, Utf8.encodeChar (Nat.digitChar n) = [UInt8.ofNat (Nat.digitChar n).toNat] := by
  decide

theorem hexValue?_digitChar :
    ∀ n < 16, hexValue? (UInt8.ofNat (Nat.digitChar n).toNat) = some n := by
  decide

theorem hexByte?_digits (b : UInt8) :
    hexByte? (UInt8.ofNat (Nat.digitChar (b.toNat / 16)).toNat)
      (UInt8.ofNat (Nat.digitChar (b.toNat % 16)).toNat) = some b := by
  have hlt := b.toNat_lt
  have hparts : b.toNat / 16 * 16 + b.toNat % 16 = b.toNat := Nat.div_add_mod' b.toNat 16
  rw [hexByte?, hexValue?_digitChar _ (by omega), hexValue?_digitChar _ (by omega)]
  simp only [Option.bind_eq_bind, Option.bind_some, hparts, UInt8.ofNat_toNat]
  rfl

/-! ## Reading what is escaped -/

theorem mem_escape {s : String} {c : Char} (h : c ∈ escape s) : c = '%' ∨ c.isAlphanum = true := by
  rcases List.mem_flatMap.1 h with ⟨b, _, hc⟩
  have hlt := b.toNat_lt
  simp only [escapeByte, List.mem_cons, List.not_mem_nil, or_false] at hc
  rcases hc with rfl | rfl | rfl
  · exact .inl rfl
  · exact .inr (isAlphanum_digitChar _ (by omega))
  · exact .inr (isAlphanum_digitChar _ (by omega))

theorem ne_of_mem_escape {s : String} {c d : Char} (percent : d ≠ '%')
    (plain : d.isAlphanum = false) (h : c ∈ escape s) : c ≠ d := by
  rintro rfl
  rcases mem_escape h with hc | hc
  · exact percent hc
  · exact absurd hc (by simp [plain])

theorem unescape_escapeByte (b : UInt8) (rest : List UInt8) :
    unescape (Utf8.encode (escapeByte b) ++ rest) = b :: unescape rest := by
  have hlt := b.toNat_lt
  have hpercent : Utf8.encodeChar '%' = [0x25] := by decide
  have hbytes : Utf8.encode (escapeByte b) =
      [0x25, UInt8.ofNat (Nat.digitChar (b.toNat / 16)).toNat,
        UInt8.ofNat (Nat.digitChar (b.toNat % 16)).toNat] := by
    simp only [Utf8.encode, escapeByte, List.flatMap_cons, List.flatMap_nil, hpercent,
      encodeChar_digitChar (b.toNat / 16) (by omega), encodeChar_digitChar (b.toNat % 16) (by omega)]
    rfl
  rw [hbytes, List.cons_append, List.cons_append, List.cons_append, List.nil_append, unescape,
    hexByte?_digits]

theorem unescape_escape (bytes : List UInt8) :
    unescape (Utf8.encode (bytes.flatMap escapeByte)) = bytes := by
  induction bytes with
  | nil => rfl
  | cons b rest ih =>
    calc
      unescape (Utf8.encode ((b :: rest).flatMap escapeByte))
          = unescape (Utf8.encode (escapeByte b) ++ Utf8.encode (rest.flatMap escapeByte)) := by
            rw [List.flatMap_cons, Utf8.encode, List.flatMap_append, Utf8.encode, Utf8.encode]
      _ = b :: unescape (Utf8.encode (rest.flatMap escapeByte)) := unescape_escapeByte b _
      _ = b :: rest := by rw [ih]

/-- A text is read from a value in which it is escaped. -/
theorem formText_escape (s : String) : formText (escape s) = s := by
  -- no plus sign is written, so none is taken for a blank
  have hspaced : (escape s).map (fun c => if c = '+' then ' ' else c) = escape s := by
    refine (List.map_congr_left fun c hc => if_neg ?_).trans (List.map_id _)
    exact ne_of_mem_escape (by decide) (by decide) hc
  rw [formText, hspaced, escape, unescape_escape, Utf8.decodeLossy_encode, String.ofList_toList]

/-! ## Queries of one value -/

section Query

variable {name : List Char}

theorem pairOf_escape (single : '=' ∉ name) (s : String) :
    pairOf (name ++ '=' :: escape s) = (formText name, .str s) := by
  have hparts : Text.splitFirst '=' (name ++ '=' :: escape s) = (name, some (escape s)) :=
    Text.splitFirst_append single _
  rw [pairOf, hparts]
  simp only [Option.getD_some, formText_escape]

/-- A query that gives a name and a value, escaped, gives nothing else. -/
theorem queryDocument_escape (single : '&' ∉ name ∧ '=' ∉ name) (s : String) :
    queryDocument (name ++ '=' :: escape s) = .obj [(formText name, .str s)] := by
  have hescaped : '&' ∉ escape s := fun h => ne_of_mem_escape (by decide) (by decide) h rfl
  have hpiece : '&' ∉ name ++ '=' :: escape s := by
    simp [single.1, hescaped]
  have hpieces : Text.splitOnChar '&' (name ++ '=' :: escape s) = [name ++ '=' :: escape s] :=
    Text.splitOnChar_eq_iff.2 ⟨List.cons_ne_nil _ _, List.forall_mem_singleton.2 hpiece, by simp⟩
  have hkept : [name ++ '=' :: escape s].filter (!·.isEmpty) = [name ++ '=' :: escape s] := by simp
  rw [queryDocument, hpieces, hkept, List.map_singleton, pairOf_escape single.2]

end Query

end Http
end EventRewards
