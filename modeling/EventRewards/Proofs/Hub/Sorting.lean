import EventRewards.Hub.Store
import Mathlib.Data.List.Nodup
import Mathlib.Data.List.Perm.Basic
import Mathlib.Order.Lattice

/-!
# Sorting by keys

`sortedBy` puts items in the order that a test gives them.  Where the test compares keys and no two
items have one key, the items come out strictly in the order of their keys.  A list in strict order is
determined by its members.  So a listing, which has to hold certain items in such an order, is one list
only: it depends neither on the order in which the items are stored nor on when some of them are left
out.
-/

namespace EventRewards

/-! ## Items -/

section Items

variable {α : Type} (before : α → α → Bool)

theorem insertSorted_perm (a : α) (items : List α) :
    (insertSorted before a items).Perm (a :: items) := by
  induction items with
  | nil => exact .refl [a]
  | cons b rest ih =>
    rw [insertSorted]
    by_cases h : before a b = true
    · rw [if_pos h]
    · rw [if_neg h]
      calc
        (b :: insertSorted before a rest).Perm (b :: a :: rest) := ih.cons b
        _ |>.Perm (a :: b :: rest) := .swap a b rest

theorem sortedBy_perm (items : List α) : (sortedBy before items).Perm items := by
  induction items with
  | nil => exact .refl []
  | cons a rest ih =>
    calc
      (insertSorted before a (sortedBy before rest)).Perm (a :: sortedBy before rest) :=
        insertSorted_perm before a _
      _ |>.Perm (a :: rest) := ih.cons a

end Items

/-! ## Keys -/

section Keys

variable {α κ : Type} [LinearOrder κ] {key : α → κ} {before : α → α → Bool}

/-- Inserting keeps items in the order of their keys.  What is inserted goes behind what has its key. -/
theorem insertSorted_ordered (compares : ∀ a b, before a b = true ↔ key a < key b) (a : α)
    {items : List α} (ordered : items.Pairwise fun b c => key b ≤ key c) :
    (insertSorted before a items).Pairwise fun b c => key b ≤ key c := by
  induction items with
  | nil => simp [insertSorted]
  | cons b rest ih =>
    rcases List.pairwise_cons.1 ordered with ⟨hfirst, hrest⟩
    rw [insertSorted]
    by_cases h : before a b = true
    · rw [if_pos h]
      have hab : key a < key b := (compares a b).1 h
      -- what is less than the first of them is less than all of them
      have hall : ∀ c ∈ b :: rest, key a ≤ key c := by
        intro c hc
        rcases List.mem_cons.1 hc with rfl | hc
        · exact hab.le
        · exact hab.le.trans (hfirst c hc)
      exact List.pairwise_cons.2 ⟨hall, ordered⟩
    · rw [if_neg h]
      have hba : key b ≤ key a := not_lt.1 fun hab => h ((compares a b).2 hab)
      have hall : ∀ c ∈ insertSorted before a rest, key b ≤ key c := by
        intro c hc
        rcases List.mem_cons.1 ((insertSorted_perm before a rest).mem_iff.1 hc) with rfl | hc
        · exact hba
        · exact hfirst c hc
      exact List.pairwise_cons.2 ⟨hall, ih hrest⟩

theorem sortedBy_ordered (compares : ∀ a b, before a b = true ↔ key a < key b) (items : List α) :
    (sortedBy before items).Pairwise fun a b => key a ≤ key b := by
  induction items with
  | nil => exact .nil
  | cons a rest ih => exact insertSorted_ordered compares a ih

/-- Items with keys of their own come out in strict order. -/
theorem sortedBy_strict (compares : ∀ a b, before a b = true ↔ key a < key b) {items : List α}
    (distinct : (items.map key).Nodup) :
    (sortedBy before items).Pairwise fun a b => key a < key b := by
  have hdistinct : (sortedBy before items).Pairwise fun a b => key a ≠ key b :=
    List.pairwise_map.1 (((sortedBy_perm before items).map key).nodup_iff.2 distinct)
  exact (sortedBy_ordered compares items).imp₂ (fun _ _ => lt_of_le_of_ne) hdistinct

end Keys

/-! ## Listings -/

/-- What a list has to be in order to list those of the stored items that are asked for: it holds them
and no others, strictly in the order of their keys, and thus each of them once. -/
structure IsListing {α κ : Type} [LT κ] (key : α → κ) (stored : List α) (asked : α → Prop)
    (listed : List α) : Prop where
  ordered : listed.Pairwise fun a b => key a < key b
  mem_iff : ∀ a, a ∈ listed ↔ a ∈ stored ∧ asked a

namespace IsListing

variable {α κ : Type} [LinearOrder κ] {key : α → κ} {stored stored' listed listed' : List α}
  {asked asked' : α → Prop}

theorem nodup (h : IsListing key stored asked listed) : listed.Nodup := by
  refine h.ordered.imp ?_
  rintro a b hlt rfl
  exact lt_irrefl _ hlt

/-- Two lists that list the same items are the same list. -/
theorem unique (h : IsListing key stored asked listed) (h' : IsListing key stored' asked' listed')
    (same : ∀ a, a ∈ stored ∧ asked a ↔ a ∈ stored' ∧ asked' a) : listed = listed' := by
  have hperm : listed.Perm listed' := by
    refine (List.perm_ext_iff_of_nodup h.nodup h'.nodup).2 ?_
    intro a
    rw [h.mem_iff, h'.mem_iff, same]
  refine hperm.eq_of_pairwise ?_ h.ordered h'.ordered
  intro a b _ _ hab hba
  exact absurd hab hba.asymm

/-- Of listed items those with a further property are listed by a filter. -/
theorem filter (h : IsListing key stored asked listed) (p : α → Bool) :
    IsListing key stored (fun a => asked a ∧ p a = true) (listed.filter p) where
  ordered := h.ordered.filter p
  mem_iff a := by rw [List.mem_filter, h.mem_iff, and_assoc]

theorem of_sortedBy {before : α → α → Bool} (compares : ∀ a b, before a b = true ↔ key a < key b)
    (distinct : (stored.map key).Nodup) {p : α → Bool} (spec : ∀ a, p a = true ↔ asked a) :
    IsListing key stored asked (sortedBy before (stored.filter p)) where
  ordered := sortedBy_strict compares (distinct.sublist (List.filter_sublist.map key))
  mem_iff a := by rw [(sortedBy_perm before _).mem_iff, List.mem_filter, spec]

end IsListing

end EventRewards
