import EventRewards.Json.Reader
import EventRewards.Proofs.Json.Records
import EventRewards.Proofs.Number.Rounding

/-!
# Well-formed JSON values

A number of a JSON value is an integer that 64 bits hold, with or without a sign, or a finite double.
`Json.WellFormed` says so of all numbers in a value, and nothing else comes out of a JSON text.
-/

namespace EventRewards
namespace Json

/-- Whether a value holds no numbers but those that JSON values can hold. -/
inductive WellFormed : Json → Prop where
  | null : WellFormed .null
  | bool {b : Bool} : WellFormed (.bool b)
  | int {n : Int} (low : -2 ^ 63 ≤ n) (high : n < 2 ^ 64) : WellFormed (.int n)
  | float {x : Double} (finite : x.isFinite = true) : WellFormed (.float x)
  | str {s : String} : WellFormed (.str s)
  | arr {items : List Json} (each : ∀ item ∈ items, WellFormed item) : WellFormed (.arr items)
  | obj {members : List (String × Json)} (each : ∀ m ∈ members, WellFormed m.2) :
      WellFormed (.obj members)

theorem WellFormed.partOf {part whole : Json} (h : whole.WellFormed) (found : part.PartOf whole) :
    part.WellFormed := by
  cases found with
  | item mem =>
    cases h with
    | arr each => exact each part mem
  | member mem =>
    cases h with
    | obj each => exact each _ mem

/-- What holds of a well-formed value whenever it holds of its parts holds of all such values. -/
theorem WellFormed.part_induction {motive : Json → Prop}
    (step : ∀ j, j.WellFormed → (∀ part, PartOf part j → motive part) → motive j) {j : Json}
    (h : j.WellFormed) : motive j := by
  induction h with
  | arr each ih =>
    refine step _ (.arr each) ?_
    intro part hpart
    cases hpart with
    | item mem => exact ih part mem
  | obj each ih =>
    refine step _ (.obj each) ?_
    intro part hpart
    cases hpart with
    | member mem => exact ih _ mem
  | null => exact step _ .null fun _ hpart => nomatch hpart
  | bool => exact step _ .bool fun _ hpart => nomatch hpart
  | int low high => exact step _ (.int low high) fun _ hpart => nomatch hpart
  | float finite => exact step _ (.float finite) fun _ hpart => nomatch hpart
  | str => exact step _ .str fun _ hpart => nomatch hpart

/-! ## Values that are read -/

theorem scaled?_isFinite {negative : Bool} {whole fraction : List Char} {exponent : Int} {x : Double}
    (h : Double.scaled? negative whole fraction exponent = some x) : x.isFinite = true := by
  rw [Double.scaled?, Option.bind_eq_some_iff] at h
  rcases h with ⟨units, _, hfinite⟩
  rw [Double.finite?] at hfinite
  by_cases hfits : Fits units
  · rw [dif_pos hfits] at hfinite
    cases hfinite
    rfl
  · rw [dif_neg hfits] at hfinite
    cases hfinite

namespace Reader

theorem wholeNumber?_wellFormed {negative : Bool} {digits : List Char} {j : Json}
    (h : wholeNumber? negative digits = some j) : j.WellFormed := by
  rw [wholeNumber?] at h
  simp only [Nat.pow_eq] at h
  -- an integer from zero on, one below zero, or a double where 64 bits are not enough
  split at h
  · next hn =>
    cases h
    simp only [Bool.and_eq_true, Bool.not_eq_true', decide_eq_true_eq] at hn
    exact .int (by omega) (by omega)
  · split at h
    · next hn =>
      cases h
      simp only [Bool.and_eq_true, decide_eq_true_eq] at hn
      exact .int (by omega) (by omega)
    · rcases Option.map_eq_some_iff.1 h with ⟨x, hx, rfl⟩
      exact .float (scaled?_isFinite hx)

theorem number?_wellFormed {lenient negative : Bool} {cs after : List Char} {j : Json}
    (h : number? lenient negative cs = some (j, after)) : j.WellFormed := by
  rw [number?] at h
  rcases spanDigits cs with ⟨whole, rest⟩
  dsimp only at h
  split at h
  · cases h
  · simp only [Option.bind_eq_bind, Option.bind_eq_some_iff] at h
    rcases h with ⟨⟨fraction, rest'⟩, _, ⟨exponent, rest''⟩, _, hnumber⟩
    dsimp only at hnumber
    split at hnumber
    · -- a number that is passed over is not read
      cases hnumber
      exact .null
    · split at hnumber
      · rcases Option.map_eq_some_iff.1 hnumber with ⟨n, hwhole, heq⟩
        cases heq
        exact wholeNumber?_wellFormed hwhole
      · rcases Option.map_eq_some_iff.1 hnumber with ⟨x, hx, heq⟩
        cases heq
        exact .float (scaled?_isFinite hx)

theorem scalar?_wellFormed {lenient : Bool} {fuel : Nat} {cs after : List Char} {j : Json}
    (h : scalar? lenient fuel cs = some (j, after)) : j.WellFormed := by
  rw [scalar?.eq_def] at h
  split at h
  · rcases Option.map_eq_some_iff.1 h with ⟨_, _, heq⟩
    cases heq
    exact .str
  · exact number?_wellFormed h
  · rcases Option.map_eq_some_iff.1 h with ⟨_, _, heq⟩
    cases heq
    exact .null
  · rcases Option.map_eq_some_iff.1 h with ⟨_, _, heq⟩
    cases heq
    exact .bool
  · rcases Option.map_eq_some_iff.1 h with ⟨_, _, heq⟩
    cases heq
    exact .bool
  · exact number?_wellFormed h

theorem stopInItem_ne_ok {α : Type} {taken : List Json} {b : Break} {a : α} :
    stopInItem taken b ≠ .ok a := by
  intro h
  rw [stopInItem] at h
  split at h
  · cases h
  · cases h

/-- Whether nothing but a well-formed value comes out of a scan. -/
def Sound (scan : Scan Json) : Prop :=
  ∀ j after, scan = .ok (j, after) → j.WellFormed

/-- What the reader of values, of items and of members does with so many rounds left: it reads
well-formed values if those before it were. -/
structure SoundAt (fuel : Nat) : Prop where
  value : ∀ limit outline depth cs, Sound (value limit outline depth cs fuel)
  items : ∀ limit outline depth taken cs, (∀ item ∈ taken, item.WellFormed) →
    Sound (items limit outline depth taken cs fuel)
  members : ∀ limit outline depth taken cs, (∀ m ∈ taken, m.2.WellFormed) →
    Sound (members limit outline depth taken cs fuel)

theorem SoundAt.value_succ {fuel : Nat} (ih : SoundAt fuel) (limit : Option Nat) (outline : Outline)
    (depth : Nat) (cs : List Char) : Sound (Reader.value limit outline depth cs (fuel + 1)) := by
  intro j after h
  rw [Reader.value] at h
  split at h
  -- where a list or an object begins, nothing of it was taken yet
  · split at h
    · split at h
      · cases h
        exact .arr (by simp)
      · exact ih.items _ _ _ _ _ (by simp) j after h
    · cases h
  · split at h
    · split at h
      · cases h
        exact .obj (by simp)
      · exact ih.members _ _ _ _ _ (by simp) j after h
    · cases h
  · split at h
    · next hscalar =>
      cases h
      exact scalar?_wellFormed hscalar
    · cases h

theorem SoundAt.items_succ {fuel : Nat} (ih : SoundAt fuel) (limit : Option Nat) (outline : Outline)
    (depth : Nat) (taken : List Json) (cs : List Char) (htaken : ∀ item ∈ taken, item.WellFormed) :
    Sound (Reader.items limit outline depth taken cs (fuel + 1)) := by
  intro j after h
  rw [Reader.items] at h
  split at h
  · exact absurd h stopInItem_ne_ok
  · next item rest hitem =>
    have hall : ∀ i ∈ item :: taken, i.WellFormed :=
      List.forall_mem_cons.2 ⟨ih.value _ _ _ _ item rest hitem, htaken⟩
    split at h
    · exact ih.items _ _ _ _ _ hall j after h
    · cases h
      refine .arr ?_
      intro i hi
      exact hall i (List.mem_reverse.1 hi)
    · cases h

theorem SoundAt.members_succ {fuel : Nat} (ih : SoundAt fuel) (limit : Option Nat)
    (outline : Outline) (depth : Nat) (taken : List (String × Json)) (cs : List Char)
    (htaken : ∀ m ∈ taken, m.2.WellFormed) :
    Sound (Reader.members limit outline depth taken cs (fuel + 1)) := by
  intro j after h
  rw [Reader.members] at h
  split at h
  · split at h
    · cases h
    · next name rest hname =>
      split at h
      · split at h
        · cases h
        · next held rest' hheld =>
          have hall : ∀ m ∈ (name, held) :: taken, m.2.WellFormed :=
            List.forall_mem_cons.2 ⟨ih.value _ _ _ _ held rest' hheld, htaken⟩
          dsimp only at h
          split at h
          · exact ih.members _ _ _ _ _ hall j after h
          · cases h
            refine .obj ?_
            intro m hm
            exact hall m (List.mem_reverse.1 hm)
          · cases h
      · cases h
  · cases h

/-- The induction is on the rounds that are left. -/
theorem soundAt (fuel : Nat) : SoundAt fuel := by
  induction fuel with
  | zero =>
    refine ⟨?_, ?_, ?_⟩
    · intro limit outline depth cs j after h
      rw [Reader.value] at h
      cases h
    · intro limit outline depth taken cs _ j after h
      rw [Reader.items] at h
      cases h
    · intro limit outline depth taken cs _ j after h
      rw [Reader.members] at h
      cases h
  | succ fuel ih => exact ⟨ih.value_succ, ih.items_succ, ih.members_succ⟩

end Reader

/-- Whatever a JSON text is read as is well-formed. -/
theorem read_wellFormed {options : ReadOptions} {s : String} {j : Json}
    (h : read options s = .whole j) : j.WellFormed := by
  rw [read] at h
  split at h
  · cases h
  · next hread =>
    split at h
    · cases h
      exact (Reader.soundAt _).value _ _ _ _ j _ hread
    · cases h

end Json
end EventRewards
