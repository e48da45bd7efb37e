import EventRewards.Proofs.Condition.Grammar
import EventRewards.Proofs.Json.Canonical

/-!
# Conditions in canonical documents

A document is often kept in canonical form, with the members of its objects sorted by name, and then it
is not the form in which a condition is written: that names the operator of a group before its
children.  Decoding does not ask for the order of members.  So a plain condition is decoded from the
canonical form of its document as from the document itself.
-/

namespace EventRewards

/-! ## Leaves and groups -/

/-- There are no objects in the form of a plain literal. -/
theorem Literal.canonical_toJson {l : Literal} (plain : l.Plain) : l.toJson.canonical = l.toJson := by
  induction plain with
  | null => rfl
  | number finite => rw [toJson, if_pos finite, Json.canonical]
  | text => rfl
  | @list items _ ih =>
    have hitems : Json.canonicalItems (itemsToJson items) = itemsToJson items := by
      rw [Json.canonicalItems_eq, itemsToJson_eq, List.map_map]
      exact List.map_congr_left ih
    rw [toJson, Json.canonical, hitems]

/-- The members of a leaf are written in the order of their names. -/
theorem Leaf.canonical_toJson {l : Leaf} (plain : l.operand.Plain) :
    l.toJson.canonical = l.toJson := by
  have hoperand := Literal.canonical_toJson plain
  have hsubject : (Json.obj [("id", .str l.conditionId)]).canonical =
      .obj [("id", .str l.conditionId)] := rfl
  have hoperator : l.operator.toJson.canonical = l.operator.toJson := rfl
  rw [toJson, Json.canonical]
  simp only [Json.canonicalMembers, hsubject, hoperator, hoperand]
  rfl

namespace Node

theorem canonical_toJson_group (combinator : Combinator) (children : List Node) :
    (group combinator children).toJson.canonical =
      .obj [("conditions", .arr (children.map fun n => n.toJson.canonical)),
        ("operator", combinator.toJson)] := by
  have hoperator : combinator.toJson.canonical = combinator.toJson := rfl
  have hchildren : (Json.arr (listToJson children)).canonical =
      .arr (children.map fun n => n.toJson.canonical) := by
    rw [Json.canonical, Json.canonicalItems_eq, listToJson_eq, List.map_map]
    rfl
  rw [toJson, Json.canonical]
  simp only [Json.canonicalMembers, hoperator, hchildren]
  rfl

/-- The canonical form of the document of a plain node is a form of the node. -/
theorem formOf_canonical {n : Node} (plain : n.Plain) : FormOf n.toJson.canonical n := by
  induction n with
  | leaf l =>
    have hplain : l.operand.Plain := plain l (List.mem_singleton.2 rfl)
    rw [toJson, Leaf.canonical_toJson hplain]
    exact .leaf (Leaf.decode_iff_formOf.1 (Leaf.decode_toJson hplain))
  | group combinator children ih =>
    rw [canonical_toJson_group]
    have hparts : Json.RecordForm ["operator", "conditions"]
        [combinator.toJson, .arr (children.map fun n => n.toJson.canonical)]
        (.obj [("conditions", .arr (children.map fun n => n.toJson.canonical)),
          ("operator", combinator.toJson)]) := by
      refine .object ?_
      simp [Json.gives_iff_filter]
    have heach : List.Forall₂ FormOf (children.map fun n => n.toJson.canonical) children := by
      rw [List.forall₂_map_left_iff, List.forall₂_same]
      intro n hn
      exact ih n hn (plain_group.1 plain n hn)
    refine .group ?_ hparts (Combinator.decode_iff_formOf.1 combinator.decode_toJson) heach
    -- there is no left side that a leaf would have
    rintro l ⟨parts, _, _, _⟩
    cases parts with
    | object gives =>
      rcases exists_of_forall₂ gives List.mem_cons_self with ⟨subject, _, hgives⟩
      simpa using hgives.member

theorem map_decode_eq_map_ok {items : List Json} {nodes : List Node} :
    items.map decode = nodes.map .ok ↔ List.Forall₂ FormOf items nodes := by
  simp only [map_eq_map_iff_forall₂, decode_iff_formOf]

end Node

/-! ## Whole conditions -/

namespace Tree

/-- The record that a condition is read as gives its two values, and both can be read. -/
theorem exists_record_iff {j operator conditions : Json} :
    (∃ r, Json.record "ConditionGroup" [Json.field "operator" Combinator.decode,
        Json.field "conditions" (Json.sequence Node.decode)] j = .ok r ∧
      r.lookup "operator" = some operator ∧ r.lookup "conditions" = some conditions) ↔
      Json.RecordForm ["operator", "conditions"] [operator, conditions] j ∧
        (∃ c, Combinator.decode operator = .ok c) ∧
        ∃ nodes, Json.sequence Node.decode conditions = .ok nodes := by
  have hrecord := @Json.record_iff_form [Json.field "operator" Combinator.decode,
      Json.field "conditions" (Json.sequence Node.decode)] (by simp) (by simp)
    "ConditionGroup" j [operator, conditions]
  simpa [Json.field_check_eq_ok] using hrecord

/-- The forms of a condition are those of a record of a combinator and an array of nodes. -/
theorem decode_iff_formOf {j : Json} {t : Tree} :
    decode j = .ok t ↔ ∃ operator items,
      Json.RecordForm ["operator", "conditions"] [operator, .arr items] j ∧
        Combinator.FormOf operator t.combinator ∧ List.Forall₂ Node.FormOf items t.children := by
  constructor
  · intro h
    simp only [decode, bind_eq_ok, pure_eq_ok, Json.get_eq_ok] at h
    rcases h with ⟨r, hr, c, ⟨operator, hoperator, hc⟩, nodes, ⟨conditions, hconditions, hnodes⟩, rfl⟩
    have hparts := (exists_record_iff.1 ⟨r, hr, hoperator, hconditions⟩).1
    rcases Json.sequence_eq_ok.1 hnodes with ⟨items, rfl, hread⟩
    exact ⟨operator, items, hparts, Combinator.decode_iff_formOf.1 hc,
      Node.map_decode_eq_map_ok.1 hread⟩
  · rintro ⟨operator, items, parts, combinatorForm, each⟩
    have hc := Combinator.decode_iff_formOf.2 combinatorForm
    have hnodes : Json.sequence Node.decode (.arr items) = .ok t.children :=
      Json.sequence_eq_ok.2 ⟨items, rfl, Node.map_decode_eq_map_ok.2 each⟩
    rcases exists_record_iff.2 ⟨parts, ⟨_, hc⟩, ⟨_, hnodes⟩⟩ with ⟨r, hr, hoperator, hconditions⟩
    simp only [decode, bind_eq_ok, pure_eq_ok, Json.get_eq_ok]
    exact ⟨r, hr, _, ⟨_, hoperator, hc⟩, _, ⟨_, hconditions, hnodes⟩, rfl⟩

/-- A plain condition is decoded from the canonical form of its document. -/
theorem decode_canonical {t : Tree} (plain : t.Plain) : decode t.toJson.canonical = .ok t := by
  have hform : Node.FormOf t.root.toJson.canonical t.root := Node.formOf_canonical plain
  rw [decode_iff_formOf, toJson]
  cases hform with
  | group _ parts combinatorForm each => exact ⟨_, _, parts, combinatorForm, each⟩

end Tree

end EventRewards
