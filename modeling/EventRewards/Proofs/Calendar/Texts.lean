import EventRewards.Calendar.Rfc3339
import EventRewards.Proofs.Calendar.Civil
import EventRewards.Proofs.Instants
import EventRewards.Proofs.Number.Digits

/-!
# Texts of instants

An instant that is written out is read back, to the nanosecond: by the relaxed reading for every year
in use, and as a timestamp where the year has four digits.  Each part of the text is read off by the
reader of that part, and the parts make up the instant that was written.

The exception are leap seconds within a minute.  Their texts show the second after them, which is what
is read; no reading gives a leap second that does not end a minute.
-/

namespace EventRewards

/-! ## Parts of a text -/

namespace Rfc3339

theorem isBlank_of_isDigit {c : Char} (h : c.isDigit = true) : Text.isBlank c = false := by
  have hrange : 48 ≤ c.toNat ∧ c.toNat ≤ 57 := by
    simp only [Char.isDigit, Bool.and_eq_true, decide_eq_true_eq, ge_iff_le,
      UInt32.le_iff_toNat_le] at h
    exact h
  simp only [Text.isBlank, Bool.or_eq_false_iff, Bool.and_eq_false_iff, beq_eq_false_iff_ne,
    decide_eq_false_iff_not]
  omega

theorem skipBlanks_cons {c : Char} (h : Text.isBlank c = false) (rest : List Char) :
    skipBlanks (c :: rest) = c :: rest := by
  simp [skipBlanks, h]

/-- A padded number starts with a digit. -/
theorem exists_paddedDigits_eq_cons {width : Nat} (hwidth : 0 < width) (number : Nat) :
    ∃ c digits, paddedDigits width number = c :: digits ∧ c.isDigit = true := by
  have hlength := le_length_paddedDigits width number
  cases hdigits : paddedDigits width number with
  | nil => exact absurd (hdigits ▸ hlength) (by simpa using hwidth.ne')
  | cons c digits =>
    exact ⟨c, digits, rfl, isDigit_of_mem_paddedDigits (hdigits ▸ List.mem_cons_self)⟩

theorem skipBlanks_paddedDigits {width : Nat} (hwidth : 0 < width) (number : Nat)
    (rest : List Char) :
    skipBlanks (paddedDigits width number ++ rest) = paddedDigits width number ++ rest := by
  rcases exists_paddedDigits_eq_cons hwidth number with ⟨c, digits, heq, hc⟩
  rw [heq, List.cons_append, skipBlanks_cons (isBlank_of_isDigit hc)]

theorem year?_of_isDigit {c : Char} (h : c.isDigit = true) (rest : List Char) :
    year? (c :: rest) =
      (number? 1 4 (c :: rest)).map fun (n, after) => ((n : Int), after) := by
  have hminus : c ≠ '-' := by
    rintro rfl
    cases h
  have hplus : c ≠ '+' := by
    rintro rfl
    cases h
  simp [year?, hminus, hplus]

theorem yearChars_of_four {year : Int} (h : 0 ≤ year ∧ year ≤ 9999) :
    yearChars year = paddedDigits 4 year.toNat := by
  simp [yearChars, h]

/-- A year is written in four digits, or with a sign. -/
theorem yearChars_cases (year : Int) :
    (0 ≤ year ∧ year ≤ 9999) ∨
      (year < 0 ∧ yearChars year = '-' :: paddedDigits 4 year.natAbs) ∨
      (9999 < year ∧ yearChars year = '+' :: paddedDigits 4 year.natAbs) := by
  by_cases hfour : 0 ≤ year ∧ year ≤ 9999
  · exact .inl hfour
  by_cases hneg : year < 0
  · exact .inr (.inl ⟨hneg, by simp [yearChars, hfour, hneg]⟩)
  · exact .inr (.inr ⟨by omega, by simp [yearChars, hfour, hneg]⟩)

theorem skipBlanks_yearChars (year : Int) (rest : List Char) :
    skipBlanks (yearChars year ++ rest) = yearChars year ++ rest := by
  rcases yearChars_cases year with hfour | ⟨_, heq⟩ | ⟨_, heq⟩
  · rw [yearChars_of_four hfour]
    exact skipBlanks_paddedDigits (by decide) _ rest
  · rw [heq]
    exact skipBlanks_cons (by decide) _
  · rw [heq]
    exact skipBlanks_cons (by decide) _

theorem number?_two {least number : Nat} (hleast : least ≤ 2) (h : number < 100)
    (rest : List Char) : number? least 2 (paddedDigits 2 number ++ rest) = some (number, rest) :=
  number?_paddedDigits (by decide) hleast h rest

/-- A year is read back, with its sign if it has one. -/
theorem year?_yearChars (year : Int) {rest : List Char} (hrest : EndsDigits rest) :
    year? (yearChars year ++ rest) = some (year, rest) := by
  -- after a sign, all digits that there are belong to the year
  have hall : number? 1 (paddedDigits 4 year.natAbs ++ rest).length
      (paddedDigits 4 year.natAbs ++ rest) = some (year.natAbs, rest) := by
    have hsome : 1 ≤ (paddedDigits 4 year.natAbs).length :=
      le_trans (by decide) (le_length_paddedDigits 4 year.natAbs)
    simpa only [natOfDigits_paddedDigits] using
      number?_append (fun _ => isDigit_of_mem_paddedDigits) hsome (by simp) (.inr hrest)
  rcases yearChars_cases year with hfour | ⟨hneg, heq⟩ | ⟨hlong, heq⟩
  · have hnumber : number? 1 4 (paddedDigits 4 year.toNat ++ rest) = some (year.toNat, rest) :=
      number?_paddedDigits (by decide) (by decide) (by omega) rest
    -- the text starts with a digit, so that no sign is seen
    rcases exists_paddedDigits_eq_cons (by decide : 0 < 4) year.toNat with
      ⟨c, digits, heq, hc⟩
    rw [yearChars_of_four hfour]
    rw [heq, List.cons_append] at hnumber ⊢
    rw [year?_of_isDigit hc, hnumber]
    simp [hfour.1]
  · have hvalue : -(year.natAbs : Int) = year := by omega
    simp only [heq, List.cons_append, year?, hall, Option.map_some, hvalue]
  · have hvalue : (year.natAbs : Int) = year := by omega
    simp only [heq, List.cons_append, year?, hall, Option.map_some, hvalue]

/-- The digits of a fraction of so many places are read as nanoseconds. -/
theorem fraction?_paddedDigits {places number : Nat} (hplaces : 0 < places ∧ places ≤ 9)
    (h : number < 10 ^ places) {rest : List Char} (hrest : EndsDigits rest) :
    fraction? ('.' :: (paddedDigits places number ++ rest)) =
      some (number * 10 ^ (9 - places), rest) := by
  have hspan : spanDigits (paddedDigits places number ++ rest) = (paddedDigits places number, rest) :=
    spanDigits_append (fun _ => isDigit_of_mem_paddedDigits) hrest
  have hlength := length_paddedDigits hplaces.1 h
  have hsome : paddedDigits places number ≠ [] := by
    intro hnil
    rw [hnil] at hlength
    exact absurd hlength hplaces.1.ne
  have hkept : (paddedDigits places number).take 9 = paddedDigits places number :=
    List.take_of_length_le (by omega)
  simp [fraction?, hspan, hsome, hkept, hlength, natOfDigits_paddedDigits]

/-- A fraction is read back from its groups of three digits, and none from none. -/
theorem fraction?_fractionChars {nano : Nat} (h : nano < nanosPerSecond) {rest : List Char}
    (hrest : EndsDigits rest) (hpoint : '.' ∉ rest.head?) :
    fraction? (fractionChars nano ++ rest) = some (nano, rest) := by
  simp only [nanosPerSecond] at h
  simp only [fractionChars]
  split_ifs with hnone hmillis hmicros
  · cases rest with
    | nil => simp [fraction?, hnone]
    | cons c rest =>
      have hc : c ≠ '.' := by simpa using hpoint
      simp [fraction?, hnone, hc]
  · rw [List.cons_append, fraction?_paddedDigits (by decide) (by omega) hrest]
    congr 2
    omega
  · rw [List.cons_append, fraction?_paddedDigits (by decide) (by omega) hrest]
    congr 2
    omega
  · rw [List.cons_append, fraction?_paddedDigits (by decide) h hrest]
    congr 2
    omega

end Rfc3339

/-! ## Instants -/

namespace Instant

open Rfc3339

/-- The second that the text of an instant shows. -/
def clockSecond (t : Instant) : Nat :=
  if nanosPerSecond ≤ t.nano then t.second % 60 + 1 else t.second % 60

/-- The nanoseconds of that second. -/
def clockNano (t : Instant) : Nat :=
  if nanosPerSecond ≤ t.nano then t.nano - nanosPerSecond else t.nano

theorem clockSecond_lt (t : Instant) : t.clockSecond < 100 := by
  simp only [clockSecond]
  split_ifs <;> omega

theorem clockNano_lt (t : Instant) : t.clockNano < nanosPerSecond := by
  have hnano := t.nano_lt
  simp only [clockNano]
  split_ifs <;> omega

theorem date_isValid (t : Instant) : t.date.isValid = true :=
  Civil.isValid_ofDays t.day_ge t.day_le

theorem date_bounds (t : Instant) : t.date.month < 100 ∧ t.date.day < 100 := by
  have hvalid := t.date_isValid
  simp only [Civil.isValid, Bool.and_eq_true, decide_eq_true_eq] at hvalid
  have hday : Civil.daysInMonth t.date.year t.date.month ≤ 31 := by
    simp only [Civil.daysInMonth]
    split
    · split_ifs <;> omega
    all_goals omega
  omega

/-- The date and the second of the day of an instant stand for it in UTC. -/
theorem ofLocal?_date {t : Instant} (ends : t.LeapEndsMinute) :
    ofLocal? t.date t.second t.nano 0 = some t := by
  have hsecond := t.second_lt
  simp only [secondsPerDay] at hsecond
  have hday : t.date.toDays + ((t.second : Int) - 0) / secondsPerDay = t.day := by
    simp only [date, Civil.toDays_ofDays, secondsPerDay]
    omega
  have hrest : (((t.second : Int) - 0) % secondsPerDay).toNat = t.second := by
    simp only [secondsPerDay]
    omega
  have hparts : ofParts? t.day t.second t.nano = some t := ofParts?_eq_some.2 ⟨rfl, rfl, rfl, ends⟩
  simp only [ofLocal?, t.date_isValid, if_true, hday, hrest, hparts]

/-- The parts that the text of an instant shows make it up. -/
theorem assemble?_parts {t : Instant} (ends : t.LeapEndsMinute) :
    assemble? t.date (t.second / 3600) (t.second / 60 % 60) t.clockSecond t.clockNano 0 =
      some t := by
  have hsecond := t.second_lt
  simp only [secondsPerDay] at hsecond
  by_cases hleap : nanosPerSecond ≤ t.nano
  · -- second 60 is read as the second before it, with a full second of nanoseconds more
    have hlast := ends hleap
    have hshown : t.clockSecond = 60 := by simp [clockSecond, hleap, hlast]
    have hnano : t.clockNano + nanosPerSecond = t.nano := by
      simp only [clockNano, hleap, if_true]
      omega
    have hofDay : t.second / 3600 * 3600 + t.second / 60 % 60 * 60 + 59 = t.second := by omega
    simp only [assemble?, hshown, hnano, hofDay, if_true, ofLocal?_date ends]
    simp [secondsPerDay]
    omega
  · have hshown : t.clockSecond = t.second % 60 := by simp [clockSecond, hleap]
    have hnano : t.clockNano = t.nano := by simp [clockNano, hleap]
    have hofDay : t.second / 3600 * 3600 + t.second / 60 % 60 * 60 + t.second % 60 = t.second := by
      omega
    have hshort : t.second % 60 ≠ 60 := by omega
    simp only [assemble?, hshown, hnano, hofDay, hshort, if_false, ofLocal?_date ends]
    simp [secondsPerDay]
    omega

theorem clock_lt (t : Instant) : t.second / 3600 < 100 ∧ t.second / 60 % 60 < 100 := by
  have hsecond := t.second_lt
  simp only [secondsPerDay] at hsecond
  omega

theorem toList_toText (t : Instant) :
    t.toText.toList = yearChars t.date.year ++ '-' :: (paddedDigits 2 t.date.month ++
      '-' :: (paddedDigits 2 t.date.day ++ 'T' :: (paddedDigits 2 (t.second / 3600) ++
        ':' :: (paddedDigits 2 (t.second / 60 % 60) ++ ':' :: (paddedDigits 2 t.clockSecond ++
          (fractionChars t.clockNano ++ ['Z'])))))) := by
  simp only [toText, String.toList_ofList, localChars, clockSecond, clockNano, List.append_assoc,
    List.cons_append]

/-- The fraction of a second is read back, up to the letter for UTC. -/
theorem fraction?_zulu (t : Instant) :
    fraction? (fractionChars t.clockNano ++ ['Z']) = some (t.clockNano, ['Z']) :=
  fraction?_fractionChars t.clockNano_lt (.cons (by decide)) (by decide)

/-- The relaxed reading takes an instant from its text, in whatever year it is. -/
theorem ofRelaxed?_toText {t : Instant} (ends : t.LeapEndsMinute) :
    ofRelaxed? t.toText.toList = some t := by
  have hyear : ∀ rest, year? (skipBlanks (yearChars t.date.year ++ '-' :: rest)) =
      some (t.date.year, '-' :: rest) := by
    intro rest
    rw [skipBlanks_yearChars, year?_yearChars _ (.cons (by decide))]
  have hnumber : ∀ number < 100, ∀ rest,
      number? 1 2 (skipBlanks (paddedDigits 2 number ++ rest)) = some (number, rest) := by
    intro number h rest
    rw [skipBlanks_paddedDigits (by decide), number?_two (by decide) h]
  rw [toList_toText]
  -- the parts are read from left to right, and no blanks are met before them
  refine Option.bind_eq_some_iff.2 ⟨_, hyear _, ?_⟩
  refine Option.bind_eq_some_iff.2 ⟨_, rfl, ?_⟩
  refine Option.bind_eq_some_iff.2 ⟨_, hnumber _ t.date_bounds.1 _, ?_⟩
  refine Option.bind_eq_some_iff.2 ⟨_, rfl, ?_⟩
  refine Option.bind_eq_some_iff.2 ⟨_, hnumber _ t.date_bounds.2 _, ?_⟩
  refine Option.bind_eq_some_iff.2 ⟨_, rfl, ?_⟩
  refine Option.bind_eq_some_iff.2 ⟨_, hnumber _ t.clock_lt.1 _, ?_⟩
  refine Option.bind_eq_some_iff.2 ⟨_, rfl, ?_⟩
  refine Option.bind_eq_some_iff.2 ⟨_, hnumber _ t.clock_lt.2 _, ?_⟩
  refine Option.bind_eq_some_iff.2 ⟨_, rfl, ?_⟩
  refine Option.bind_eq_some_iff.2 ⟨_, hnumber _ t.clockSecond_lt _, ?_⟩
  refine Option.bind_eq_some_iff.2 ⟨_, t.fraction?_zulu, ?_⟩
  -- nothing but the letter for UTC is left
  exact assemble?_parts ends

/-- RFC 3339 to the letter takes an instant of a year with four digits from its text. -/
theorem ofStrict?_toText {t : Instant} (ends : t.LeapEndsMinute)
    (h : 0 ≤ t.date.year ∧ t.date.year ≤ 9999) : ofStrict? t.toText.toList = some t := by
  have hyear : ∀ rest, number? 4 4 (paddedDigits 4 t.date.year.toNat ++ rest) =
      some (t.date.year.toNat, rest) :=
    number?_paddedDigits (by decide) (by decide) (by omega)
  have hnumber : ∀ number < 100, ∀ rest,
      number? 2 2 (paddedDigits 2 number ++ rest) = some (number, rest) := by
    intro number h rest
    exact number?_two (by decide) h rest
  -- the year is read as a natural number
  have hdate : (⟨(t.date.year.toNat : Nat), t.date.month, t.date.day⟩ : Civil) = t.date := by
    rw [Int.toNat_of_nonneg h.1]
  have hparts := assemble?_parts ends
  rw [← hdate] at hparts
  rw [toList_toText, yearChars_of_four h]
  refine Option.bind_eq_some_iff.2 ⟨_, hyear _, ?_⟩
  refine Option.bind_eq_some_iff.2 ⟨_, rfl, ?_⟩
  refine Option.bind_eq_some_iff.2 ⟨_, hnumber _ t.date_bounds.1 _, ?_⟩
  refine Option.bind_eq_some_iff.2 ⟨_, rfl, ?_⟩
  refine Option.bind_eq_some_iff.2 ⟨_, hnumber _ t.date_bounds.2 _, ?_⟩
  refine Option.bind_eq_some_iff.2 ⟨_, rfl, ?_⟩
  refine Option.bind_eq_some_iff.2 ⟨_, hnumber _ t.clock_lt.1 _, ?_⟩
  refine Option.bind_eq_some_iff.2 ⟨_, rfl, ?_⟩
  refine Option.bind_eq_some_iff.2 ⟨_, hnumber _ t.clock_lt.2 _, ?_⟩
  refine Option.bind_eq_some_iff.2 ⟨_, rfl, ?_⟩
  refine Option.bind_eq_some_iff.2 ⟨_, hnumber _ t.clockSecond_lt _, ?_⟩
  refine Option.bind_eq_some_iff.2 ⟨_, t.fraction?_zulu, ?_⟩
  -- nothing but the letter for UTC is left
  exact hparts

/-- Nothing is trimmed off the text of an instant: neither its first nor its last character is blank. -/
theorem trimChars_toText (t : Instant) : Text.trimChars t.toText.toList = t.toText.toList := by
  have hfront : t.toText.toList.dropWhile Text.isBlank = t.toText.toList := by
    rw [toList_toText]
    exact skipBlanks_yearChars _ _
  have hback : t.toText.toList.reverse.dropWhile Text.isBlank = t.toText.toList.reverse := by
    simp only [toText, String.toList_ofList, List.reverse_append]
    exact skipBlanks_cons (by decide) _
  rw [Text.trimChars, hfront, hback, List.reverse_reverse]

/-- A timestamp or a bare date is read as the instant of which it is the text. -/
theorem ofText?_toText {t : Instant} (ends : t.LeapEndsMinute)
    (h : 0 ≤ t.date.year ∧ t.date.year ≤ 9999) : ofText? t.toText = some t := by
  simp only [ofText?, trimChars_toText, ofStrict?_toText ends h]

/-! ## Leap seconds within minutes -/

theorem leapEndsMinute_of_ofLocal? {date : Civil} {second nano : Nat} {offset : Int} {t : Instant}
    (h : ofLocal? date second nano offset = some t) : t.LeapEndsMinute := by
  rw [ofLocal?] at h
  split at h
  · exact (ofParts?_eq_some.1 h).2.2.2
  · cases h

theorem leapEndsMinute_of_assemble? {date : Civil} {hour minute second nano : Nat} {offset : Int}
    {t : Instant} (h : assemble? date hour minute second nano offset = some t) :
    t.LeapEndsMinute := by
  rw [assemble?] at h
  split at h
  · cases h
  · dsimp only at h
    split at h
    · exact leapEndsMinute_of_ofLocal? h
    · exact leapEndsMinute_of_ofLocal? h

/-- No leap second within a minute is read, whatever the text. -/
theorem leapEndsMinute_of_ofRelaxed? {cs : List Char} {t : Instant} (h : ofRelaxed? cs = some t) :
    t.LeapEndsMinute := by
  rw [ofRelaxed?] at h
  -- the parts are read from left to right, and whatever they are, they are put together in the end
  rcases Option.bind_eq_some_iff.1 h with ⟨⟨year, _⟩, _, h⟩
  rcases Option.bind_eq_some_iff.1 h with ⟨_, _, h⟩
  rcases Option.bind_eq_some_iff.1 h with ⟨⟨month, _⟩, _, h⟩
  rcases Option.bind_eq_some_iff.1 h with ⟨_, _, h⟩
  rcases Option.bind_eq_some_iff.1 h with ⟨⟨day, _⟩, _, h⟩
  rcases Option.bind_eq_some_iff.1 h with ⟨_, _, h⟩
  rcases Option.bind_eq_some_iff.1 h with ⟨⟨hour, _⟩, _, h⟩
  rcases Option.bind_eq_some_iff.1 h with ⟨_, _, h⟩
  rcases Option.bind_eq_some_iff.1 h with ⟨⟨minute, _⟩, _, h⟩
  rcases Option.bind_eq_some_iff.1 h with ⟨_, _, h⟩
  rcases Option.bind_eq_some_iff.1 h with ⟨⟨second, _⟩, _, h⟩
  rcases Option.bind_eq_some_iff.1 h with ⟨⟨nano, cs⟩, _, h⟩
  have hput : ∀ offset rest, (if (skipBlanks rest).isEmpty then
      assemble? ⟨year, month, day⟩ hour minute second nano offset else none) = some t →
      t.LeapEndsMinute := by
    intro offset rest hassembled
    split at hassembled
    · exact leapEndsMinute_of_assemble? hassembled
    · cases hassembled
  dsimp only at h
  split at h
  · exact hput 0 _ h
  · rcases Option.bind_eq_some_iff.1 h with ⟨⟨offset, rest⟩, _, h⟩
    exact hput offset rest h

section Shown

variable {t : Instant}

theorem not_leapEndsMinute :
    ¬t.LeapEndsMinute ↔ nanosPerSecond ≤ t.nano ∧ t.second % 60 ≠ 59 :=
  Classical.not_imp

theorem second_succ_lt (within : ¬t.LeapEndsMinute) : t.second + 1 < secondsPerDay := by
  have hsecond := t.second_lt
  have hlast := (not_leapEndsMinute.1 within).2
  simp only [secondsPerDay] at hsecond ⊢
  omega

theorem nano_sub_lt (t : Instant) : t.nano - nanosPerSecond < 2 * nanosPerSecond :=
  (Nat.sub_le _ _).trans_lt t.nano_lt

/-- The instant that the text of an instant shows: a leap second within a minute is taken for the
second that comes after it. -/
def asShown (t : Instant) : Instant :=
  if h : t.LeapEndsMinute then t
  else ⟨t.day, t.second + 1, t.nano - nanosPerSecond, t.day_ge, t.day_le, second_succ_lt h,
    t.nano_sub_lt⟩

theorem asShown_of_leapEndsMinute (ends : t.LeapEndsMinute) : t.asShown = t :=
  dif_pos ends

theorem asShown_of_not (within : ¬t.LeapEndsMinute) :
    t.asShown.day = t.day ∧ t.asShown.second = t.second + 1 ∧
      t.asShown.nano = t.nano - nanosPerSecond := by
  rw [asShown, dif_neg within]
  exact ⟨rfl, rfl, rfl⟩

/-- What is shown has no leap second within a minute. -/
theorem leapEndsMinute_asShown (t : Instant) : t.asShown.LeapEndsMinute := by
  by_cases h : t.LeapEndsMinute
  · rwa [asShown_of_leapEndsMinute h]
  · intro hleap
    have hnano := t.nano_lt
    rw [(asShown_of_not h).2.2] at hleap
    simp only [nanosPerSecond] at hnano hleap
    omega

/-- A leap second within a minute is over before what its text shows. -/
theorem lt_asShown (within : ¬t.LeapEndsMinute) : t < t.asShown := by
  have hnano := t.nano_lt
  rcases asShown_of_not within with ⟨hday, hsecond, hrest⟩
  change t.rank < t.asShown.rank
  simp only [rank, hday, hsecond, hrest, nanosPerSecond, secondsPerDay] at hnano ⊢
  omega

/-- What comes before a leap second within a minute or after what its text shows stands alike to both. -/
theorem compare_asShown (within : ¬t.LeapEndsMinute) {v : Instant} (apart : v < t ∨ t.asShown < v) :
    Ord.compare t.asShown v = Ord.compare t v ∧ Ord.compare v t.asShown = Ord.compare v t := by
  rcases apart with before | after
  · have hshown := before.trans (lt_asShown within)
    rw [compare_gt_iff_gt.2 hshown, compare_gt_iff_gt.2 before, compare_lt_iff_lt.2 hshown,
      compare_lt_iff_lt.2 before]
    exact ⟨rfl, rfl⟩
  · have hinstant := (lt_asShown within).trans after
    rw [compare_lt_iff_lt.2 after, compare_lt_iff_lt.2 hinstant, compare_gt_iff_gt.2 after,
      compare_gt_iff_gt.2 hinstant]
    exact ⟨rfl, rfl⟩

theorem date_asShown (t : Instant) : t.asShown.date = t.date := by
  by_cases h : t.LeapEndsMinute
  · rw [asShown_of_leapEndsMinute h]
  · rw [date, (asShown_of_not h).1, date]

theorem toText_asShown (t : Instant) : t.asShown.toText = t.toText := by
  by_cases h : t.LeapEndsMinute
  · rw [asShown_of_leapEndsMinute h]
  · have hnano := t.nano_lt
    rcases not_leapEndsMinute.1 h with ⟨hleap, hlast⟩
    rcases asShown_of_not h with ⟨_, hsecond, hrest⟩
    have hshort : ¬nanosPerSecond ≤ t.nano - nanosPerSecond := by omega
    have hhours : (t.second + 1) / 3600 = t.second / 3600 := by omega
    have hminutes : (t.second + 1) / 60 % 60 = t.second / 60 % 60 := by omega
    have hclock : t.asShown.clockSecond = t.clockSecond := by
      simp only [clockSecond, hsecond, hrest, hleap, hshort, if_true, if_false]
      omega
    have hfraction : t.asShown.clockNano = t.clockNano := by
      simp only [clockNano, hrest, hleap, hshort, if_true, if_false]
    rw [← String.toList_inj, toList_toText, toList_toText, date_asShown, hsecond, hhours, hminutes,
      hclock, hfraction]

/-- From the text of any instant with a year of four digits what it shows is read. -/
theorem ofText?_toText_eq_asShown (h : 0 ≤ t.date.year ∧ t.date.year ≤ 9999) :
    ofText? t.toText = some t.asShown := by
  rw [← toText_asShown]
  exact ofText?_toText t.leapEndsMinute_asShown (t.date_asShown ▸ h)

end Shown

end Instant

namespace Sample

/-- Half a second into the leap second at the end of 2016. -/
def leapSecond : Instant :=
  ⟨17166, 86399, 1500000000, by decide, by decide, by decide, by decide⟩

/-- A third of a second into a leap second after 23:56:04, which is no end of a minute. -/
def withinMinute : Instant :=
  ⟨16616, 86164, 1333333333, by decide, by decide, by decide, by decide⟩

end Sample

example : Sample.leapSecond.toText = "2016-12-31T23:59:60.500Z" := by
  decide +kernel

example : Sample.withinMinute.toText = "2015-06-30T23:56:05.333333333Z" := by
  decide +kernel

end EventRewards
