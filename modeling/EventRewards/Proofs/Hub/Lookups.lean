import EventRewards.Hub.Catalog
import EventRewards.Proofs.Condition.Soundness

/-!
# Looking documents up in the store

What is found under an id after a document was added or replaced, and the definitions fetched for a
condition.  Fetching by the ids that a condition collects loses nothing that the condition needs: a
check against the definitions fetched is a check against the store.
-/

namespace EventRewards
namespace Store

variable {s : Store} {id : String}

/-! ## What is found -/

theorem of_definition? {d : Definition} (found : s.definition? id = some d) :
    d ∈ s.definitions ∧ d.id = id :=
  Keyed.of_find? found

theorem of_event? {e : Event} (found : s.event? id = some e) : e ∈ s.events ∧ e.id = id :=
  Keyed.of_find? found

theorem of_request? {r : RewardRequest} (found : s.request? id = some r) :
    r ∈ s.requests ∧ r.id = id :=
  Keyed.of_find? found

theorem findDefinition_eq_ok {d : Definition} :
    s.findDefinition id = .ok d ↔ s.definition? id = some d := by
  rw [findDefinition]
  cases s.definition? id with
  | none => simp
  | some d' => simp

theorem findEvent_eq_ok {e : Event} : s.findEvent id = .ok e ↔ s.event? id = some e := by
  rw [findEvent]
  cases s.event? id with
  | none => simp
  | some e' => simp

theorem findRequest_eq_ok {r : RewardRequest} :
    s.findRequest id = .ok r ↔ s.request? id = some r := by
  rw [findRequest]
  cases s.request? id with
  | none => simp
  | some r' => simp

/-! ## Adding and replacing -/

theorem definition?_append (d : Definition) :
    ({ s with definitions := s.definitions ++ [d] } : Store).definition? id =
      (s.definition? id).or (if d.id = id then some d else none) :=
  Keyed.find?_append s.definitions d id

theorem event?_append (e : Event) :
    ({ s with events := s.events ++ [e] } : Store).event? id =
      (s.event? id).or (if e.id = id then some e else none) :=
  Keyed.find?_append s.events e id

theorem request?_append (r : RewardRequest) :
    ({ s with requests := s.requests ++ [r] } : Store).request? id =
      (s.request? id).or (if r.id = id then some r else none) :=
  Keyed.find?_append s.requests r id

theorem event?_replaceEvent (e : Event) :
    (s.replaceEvent e).event? id =
      if e.id = id then (s.event? id).map (fun _ => e) else s.event? id :=
  Keyed.find?_replace s.events e id

theorem request?_replaceRequest (r : RewardRequest) :
    (s.replaceRequest r).request? id =
      if r.id = id then (s.request? id).map (fun _ => r) else s.request? id :=
  Keyed.find?_replace s.requests r id

/-- What may be found among the requests after one was replaced. -/
theorem mem_replaceRequest {r r' : RewardRequest} (h : r' ∈ (s.replaceRequest r).requests) :
    r' = r ∨ r' ∈ s.requests ∧ r'.id ≠ r.id :=
  Keyed.mem_replace h

/-! ## Definitions by id -/

/-- The ids of the definitions fetched are the ids asked for, less those that are not known. -/
theorem map_id_definitionsById (ids : List String) :
    (s.definitionsById ids).map (·.id) = ids.filter fun id => (s.definition? id).isSome := by
  induction ids with
  | nil => rfl
  | cons a rest ih =>
    rw [definitionsById] at ih
    rw [definitionsById, List.filterMap_cons]
    cases hfound : s.definition? a with
    | none => simp [hfound, ih]
    | some d => simp [hfound, ih, (of_definition? hfound).2]

/-- Among the definitions fetched, an id that was asked for is found as in the store. -/
theorem find?_definitionsById {ids : List String} (hid : id ∈ ids) :
    (s.definitionsById ids).find? (·.id == id) = s.definition? id := by
  induction ids with
  | nil => simp at hid
  | cons a rest ih =>
    rw [definitionsById] at ih
    rw [definitionsById, List.filterMap_cons]
    by_cases ha : a = id
    · subst ha
      cases hfound : s.definition? a with
      | some d => simp [(of_definition? hfound).2]
      | none =>
        -- what is not in the store is not fetched, however often it is asked for
        refine Keyed.find?_eq_none.2 ?_
        rw [← definitionsById, map_id_definitionsById]
        simp [hfound]
    · have hrest : id ∈ rest := (List.mem_cons.1 hid).resolve_left (Ne.symm ha)
      cases hfound : s.definition? a with
      | none => exact ih hrest
      | some d =>
        have hne : (d.id == id) = false :=
          beq_false_of_ne fun h => ha ((of_definition? hfound).2.symm.trans h)
        rw [List.find?_cons, hne]
        exact ih hrest

theorem definitionsById_distinct {ids : List String} (distinct : ids.Nodup) :
    ((s.definitionsById ids).map (·.id)).Nodup := by
  rw [map_id_definitionsById]
  exact distinct.filter _

/-- For a sound condition some definition is fetched. -/
theorem definitionsById_ne_nil {t : Tree} (sound : t.root.Sound s.definition?) :
    s.definitionsById t.conditionIds ≠ [] := by
  rcases List.exists_mem_of_ne_nil _ (Tree.conditionIds_ne_nil sound) with ⟨id, hid⟩
  rcases Tree.exists_of_mem_conditionIds sound hid with ⟨d, hfound⟩
  exact List.ne_nil_of_mem (List.mem_filterMap.2 ⟨id, hid, hfound⟩)

/-! ## Sound conditions -/

/-- A condition is sound against the definitions that it refers to when it is sound against the
store. -/
theorem checkTree_isValid_iff (t : Tree) :
    (s.checkTree t).isValid = true ↔ t.root.Sound s.definition? := by
  rw [checkTree, Tree.check_isValid_iff]
  have hdistinct := definitionsById_distinct (s := s) t.conditionIds_nodup
  have hlookup : ∀ l ∈ t.root.leaves,
      soleDefinition? (s.definitionsById t.conditionIds) l.conditionId =
        s.definition? l.conditionId := by
    intro l hl
    rw [soleDefinition?_eq_find? hdistinct]
    exact find?_definitionsById (Tree.mem_conditionIds.2 ⟨l, hl, rfl⟩)
  -- both look-ups agree on the leaves, and soundness asks for no more
  constructor
  · intro h
    refine h.of_agree ?_
    intro l hl d hd
    rw [← hlookup l hl]
    exact hd
  · intro h
    refine h.of_agree ?_
    intro l hl d hd
    rw [hlookup l hl]
    exact hd

/-- A condition is sound against all definitions, in any order, when it is sound against the store:
no two definitions share an id, so that none is ambiguous. -/
theorem isSound_iff_of_perm (distinct : (s.definitions.map (·.id)).Nodup)
    {definitions : List Definition} (perm : definitions.Perm s.definitions) (t : Tree) :
    t.isSound definitions = true ↔ t.root.Sound s.definition? := by
  have hdistinct : (definitions.map (·.id)).Nodup := (perm.map _).nodup_iff.2 distinct
  have hlookup : soleDefinition? definitions = s.definition? := by
    funext id
    calc
      soleDefinition? definitions id = definitions.find? (·.id == id) :=
        soleDefinition?_eq_find? hdistinct id
      _ = s.definition? id := Keyed.find?_perm hdistinct perm id
  rw [← hlookup]
  exact Tree.check_isValid_iff definitions t

theorem assertSound_eq_ok {t : Tree} {done : Unit} :
    s.assertSound t = .ok done ↔ t.root.Sound s.definition? := by
  rw [← checkTree_isValid_iff, assertSound]
  by_cases h : (s.checkTree t).isValid = true
  · simp [h]
  · simp [h]

end Store
end EventRewards
