import EventRewards.Proofs.Json.Records
import Mathlib.Data.List.Induction
import Mathlib.Data.String.Basic

/-!
# Canonical JSON values

In a canonical value the members of every object stand in the order of their names, each name once.
Sorting members that stand so already changes nothing, and so a canonical value is its own canonical
form.
-/

namespace EventRewards
namespace Json

theorem canonicalItems_eq (items : List Json) : canonicalItems items = items.map canonical := by
  induction items with
  | nil => rfl
  | cons item rest ih => rw [canonicalItems, ih, List.map_cons]

theorem canonicalMembers_eq (members : List (String × Json)) :
    canonicalMembers members = members.map fun m => (m.1, m.2.canonical) := by
  induction members with
  | nil => rfl
  | cons m rest ih => rw [canonicalMembers, ih, List.map_cons]

/-! ## Sorting members -/

/-- Whether members stand in the order of their names, each name once. -/
def InOrder (members : List (String × Json)) : Prop :=
  members.Pairwise fun a b => a.1 < b.1

variable {name : String} {value : Json} {members : List (String × Json)}

theorem mem_insertMember {m : String × Json} (h : m ∈ insertMember name value members) :
    m = (name, value) ∨ m ∈ members := by
  induction members with
  | nil => exact .inl (List.mem_singleton.1 h)
  | cons first rest ih =>
    rw [insertMember] at h
    split_ifs at h with hsame hbefore
    · exact (List.mem_cons.1 h).imp_right (List.mem_cons_of_mem first)
    · exact List.mem_cons.1 h
    · rcases List.mem_cons.1 h with rfl | hrest
      · exact .inr List.mem_cons_self
      · exact (ih hrest).imp_right (List.mem_cons_of_mem first)

theorem insertMember_inOrder (h : InOrder members) : InOrder (insertMember name value members) := by
  induction members with
  | nil => exact List.pairwise_singleton _ _
  | cons first rest ih =>
    rcases List.pairwise_cons.1 h with ⟨hfirst, hrest⟩
    rw [insertMember]
    split_ifs with hsame hbefore
    · refine List.pairwise_cons.2 ⟨?_, hrest⟩
      intro m hm
      rw [hsame]
      exact hfirst m hm
    · refine List.pairwise_cons.2 ⟨?_, h⟩
      intro m hm
      rcases List.mem_cons.1 hm with rfl | hlater
      · exact hbefore
      · exact hbefore.trans (hfirst m hlater)
    · -- a name that is neither that of the first member nor before it comes later
      have hafter : first.1 < name := (not_lt.1 hbefore).lt_of_ne (Ne.symm hsame)
      refine List.pairwise_cons.2 ⟨?_, ih hrest⟩
      intro m hm
      rcases mem_insertMember hm with rfl | hlater
      · exact hafter
      · exact hfirst m hlater

/-- A member whose name comes after all others is put last. -/
theorem insertMember_last (later : ∀ m ∈ members, m.1 < name) :
    insertMember name value members = members ++ [(name, value)] := by
  induction members with
  | nil => rfl
  | cons first rest ih =>
    have hfirst : first.1 < name := later first List.mem_cons_self
    rw [insertMember, if_neg hfirst.ne', if_neg hfirst.not_gt, List.cons_append,
      ih fun m hm => later m (List.mem_cons_of_mem first hm)]

theorem sortMembers_concat (members : List (String × Json)) (m : String × Json) :
    sortMembers (members ++ [m]) = insertMember m.1 m.2 (sortMembers members) := by
  simp only [sortMembers, List.foldl_append, List.foldl_cons, List.foldl_nil]

theorem mem_of_mem_sortMembers {m : String × Json} (h : m ∈ sortMembers members) : m ∈ members := by
  induction members using List.reverseRecOn with
  | nil => exact h
  | append_singleton rest last ih =>
    rw [sortMembers_concat] at h
    rcases mem_insertMember h with rfl | hrest
    · exact List.mem_append_right rest List.mem_cons_self
    · exact List.mem_append_left _ (ih hrest)

theorem sortMembers_inOrder (members : List (String × Json)) : InOrder (sortMembers members) := by
  induction members using List.reverseRecOn with
  | nil => exact List.Pairwise.nil
  | append_singleton rest last ih =>
    rw [sortMembers_concat]
    exact insertMember_inOrder ih

theorem sortMembers_eq_self (h : InOrder members) : sortMembers members = members := by
  induction members using List.reverseRecOn with
  | nil => rfl
  | append_singleton rest last ih =>
    rcases List.pairwise_append.1 h with ⟨hrest, _, hlast⟩
    rw [sortMembers_concat, ih hrest]
    exact insertMember_last fun m hm => hlast m hm last List.mem_cons_self

/-! ## Canonical forms -/

/-- The canonical form of a canonical form is that form.  Its members are canonical, by induction, and
in order. -/
theorem canonical_canonical (j : Json) : j.canonical.canonical = j.canonical := by
  induction j using nested_induction with
  | step j ih =>
    cases j with
    | arr items =>
      have hitems : (items.map canonical).map canonical = items.map canonical := by
        rw [List.map_map]
        refine List.map_congr_left ?_
        intro item hitem
        exact ih item (.single (.item hitem))
      simp only [canonical, canonicalItems_eq, hitems]
    | obj members =>
      have hmembers : canonicalMembers (sortMembers (canonicalMembers members)) =
          sortMembers (canonicalMembers members) := by
        rw [canonicalMembers_eq (sortMembers _)]
        refine (List.map_congr_left ?_).trans (List.map_id _)
        intro m hm
        have hsorted := mem_of_mem_sortMembers hm
        rw [canonicalMembers_eq] at hsorted
        rcases List.mem_map.1 hsorted with ⟨given, hgiven, rfl⟩
        rw [ih given.2 (.single (.member hgiven))]
        rfl
      rw [canonical, canonical, hmembers, sortMembers_eq_self (sortMembers_inOrder _)]
    | null | bool b | int n | float x | str s => rfl

end Json
end EventRewards
