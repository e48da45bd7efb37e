import Mathlib.Data.List.Nodup
import Mathlib.Data.List.Perm.Basic

/-!
# Lists with keys

Documents are kept in lists and looked up by key: the first with the key is the one that is found.
Replacing a document leaves the keys of the list as they are.  Where no key occurs twice, what is
found does not depend on the order of the list.
-/

namespace EventRewards
namespace Keyed

variable {α : Type} {key : α → String}

/-- What is found has the key that was looked for, and is in the list. -/
theorem of_find? {l : List α} {id : String} {a : α}
    (found : l.find? (fun b => key b == id) = some a) : a ∈ l ∧ key a = id := by
  have hkey := List.find?_some found
  exact ⟨List.mem_of_find?_eq_some found, by simpa using hkey⟩

theorem find?_eq_none {l : List α} {id : String} :
    l.find? (fun b => key b == id) = none ↔ id ∉ l.map key := by
  constructor
  · intro absent hmem
    rcases List.mem_map.1 hmem with ⟨a, ha, rfl⟩
    have hne := List.find?_eq_none.1 absent a ha
    simp at hne
  · intro absent
    refine List.find?_eq_none.2 ?_
    intro a ha heq
    have hkey : key a = id := by simpa using heq
    exact absent (hkey ▸ List.mem_map_of_mem ha)

/-- Where no key occurs twice, a member is what is found under its key. -/
theorem find?_of_mem {l : List α} (distinct : (l.map key).Nodup) {a : α} (ha : a ∈ l) :
    l.find? (fun b => key b == key a) = some a := by
  cases hfound : l.find? (fun b => key b == key a) with
  | none => exact absurd (List.mem_map_of_mem ha) (find?_eq_none.1 hfound)
  | some b =>
    have hb := of_find? hfound
    have heq : b = a := List.inj_on_of_nodup_map distinct hb.1 ha hb.2
    rw [heq]

theorem find?_perm {l l' : List α} (distinct : (l.map key).Nodup) (perm : l.Perm l')
    (id : String) : l.find? (fun b => key b == id) = l'.find? (fun b => key b == id) := by
  have distinct' : (l'.map key).Nodup := (perm.map key).nodup distinct
  cases hfound : l.find? (fun b => key b == id) with
  | none =>
    have habsent : id ∉ l'.map key := fun hmem =>
      find?_eq_none.1 hfound ((perm.map key).mem_iff.2 hmem)
    exact (find?_eq_none.2 habsent).symm
  | some a =>
    have ha := of_find? hfound
    have hfound' := find?_of_mem distinct' (perm.mem_iff.1 ha.1)
    rw [ha.2] at hfound'
    exact hfound'.symm

/-- Where no key occurs twice, the members with a key are what is found under it. -/
theorem filter_eq_toList_find? {l : List α} (distinct : (l.map key).Nodup) (id : String) :
    l.filter (fun b => key b == id) = (l.find? (fun b => key b == id)).toList := by
  induction l with
  | nil => rfl
  | cons b rest ih =>
    rw [List.map_cons, List.nodup_cons] at distinct
    by_cases h : key b = id
    · have habsent : rest.find? (fun b => key b == id) = none :=
        find?_eq_none.2 (h ▸ distinct.1)
      simp [h, ih distinct.2, habsent]
    · simp [ih distinct.2, beq_false_of_ne h]

/-! ## Adding and replacing -/

/-- What is added comes last: it is found where nothing was found before. -/
theorem find?_append (l : List α) (a : α) (id : String) :
    (l ++ [a]).find? (fun b => key b == id) =
      (l.find? (fun b => key b == id)).or (if key a = id then some a else none) := by
  rw [List.find?_append]
  by_cases h : key a = id
  · simp [h]
  · simp [h, beq_false_of_ne h]

/-- The list with a document in the place of those with its key. -/
def replace (key : α → String) (l : List α) (a : α) : List α :=
  l.map fun b => if key b = key a then a else b

theorem map_replace (l : List α) (a : α) : (replace key l a).map key = l.map key := by
  rw [replace, List.map_map]
  refine List.map_congr_left ?_
  intro b _
  by_cases h : key b = key a
  · simp [h]
  · simp [h]

theorem mem_replace {l : List α} {a b : α} (h : b ∈ replace key l a) :
    b = a ∨ b ∈ l ∧ key b ≠ key a := by
  rcases List.mem_map.1 h with ⟨c, hc, rfl⟩
  by_cases hkey : key c = key a
  · exact .inl (if_pos hkey)
  · rw [if_neg hkey]
    exact .inr ⟨hc, hkey⟩

theorem find?_replace (l : List α) (a : α) (id : String) :
    (replace key l a).find? (fun b => key b == id) =
      if key a = id then (l.find? (fun b => key b == id)).map (fun _ => a)
      else l.find? (fun b => key b == id) := by
  induction l with
  | nil => simp [replace]
  | cons b rest ih =>
    rw [replace, List.map_cons, List.find?_cons, List.find?_cons, ← replace, ih]
    by_cases hb : key b = key a
    · by_cases ha : key a = id
      · simp [hb, ha]
      · -- neither `a` nor what it replaces is looked for
        simp [hb, ha, beq_false_of_ne ha]
    · by_cases hid : key b = id
      · have hne : key a ≠ id := fun heq => hb (hid.trans heq.symm)
        rw [if_neg hb]
        simp [hid, hne]
      · simp [hb, beq_false_of_ne hid]

/-- Replacing commutes with a filter that tells what is replaced from what replaces it by no more than
their key. -/
theorem filter_replace {l : List α} {a : α} {p : α → Bool}
    (same : ∀ b ∈ l, key b = key a → p b = p a) :
    (replace key l a).filter p = replace key (l.filter p) a := by
  induction l with
  | nil => rfl
  | cons b rest ih =>
    have hrest : (replace key rest a).filter p = replace key (rest.filter p) a := by
      apply ih
      intro c hc
      exact same c (List.mem_cons_of_mem _ hc)
    by_cases hkey : key b = key a
    · have hb : p b = p a := same b List.mem_cons_self hkey
      cases ha : p a with
      | true => simpa [replace, hkey, hb, ha] using hrest
      | false => simpa [replace, hkey, hb, ha] using hrest
    · cases hb : p b with
      | true => simpa [replace, hkey, hb] using hrest
      | false => simpa [replace, hkey, hb] using hrest

theorem replace_eq_self {l : List α} {a : α} (absent : ∀ b ∈ l, key b ≠ key a) :
    replace key l a = l := by
  have heach : ∀ b ∈ l, (if key b = key a then a else b) = b := by
    intro b hb
    exact if_neg (absent b hb)
  exact (List.map_congr_left heach).trans (List.map_id l)

/-- Of two documents with one key that are put into a list, the second is the one that stays. -/
theorem replace_replace (l : List α) {a b : α} (same : key b = key a) :
    replace key (replace key l a) b = replace key l b := by
  simp only [replace, List.map_map]
  refine List.map_congr_left ?_
  intro c _
  by_cases h : key c = key a
  · simp [h, same]
  · simp [h, same]

/-- Whether two lists hold documents with the same keys in the same places, and the same documents but
for those with one key. -/
def SameBut (key : α → String) (id : String) (l l' : List α) : Prop :=
  List.Forall₂ (fun a a' => key a' = key a ∧ (key a ≠ id → a' = a)) l l'

theorem sameBut_replace (l : List α) (a : α) : SameBut key (key a) l (replace key l a) := by
  refine List.forall₂_map_right_iff.2 (List.forall₂_same.2 ?_)
  intro b _
  by_cases h : key b = key a
  · simp [h]
  · simp [h]

end Keyed
end EventRewards
