import EventRewards.Condition.TreeDocument
import EventRewards.Proofs.Condition.Nodes
import EventRewards.Proofs.Json.Values
import EventRewards.Proofs.Results

/-!
# Conditions in documents

A condition without dates and with finite numbers is decoded from its JSON form as just what it was,
although nothing in the form tells leaves from groups or one sort of literal from another.  Whatever
else a condition is decoded from is of that kind, so that a document in any of the accepted spellings
comes to rest after it was decoded once.

All this is about JSON values.  Reading one from a text rounds its numbers and takes no more than so
many nested containers.
-/

namespace EventRewards

/-! ## Literals -/

namespace Literal

/-- Literals that documents hold: no dates, and no numbers that are not finite, at any depth. -/
inductive Plain : Literal → Prop where
  | null : Plain .null
  | number {x : Double} (finite : x.isFinite = true) : Plain (.number x)
  | text {s : String} : Plain (.text s)
  | list {items : List Literal} (each : ∀ l ∈ items, Plain l) : Plain (.list items)

theorem itemsToJson_eq (items : List Literal) : itemsToJson items = items.map toJson := by
  induction items with
  | nil => rfl
  | cons l rest ih => rw [itemsToJson, ih, List.map_cons]

/-- A list is read item for item. -/
theorem itemsOfJson?_eq_some {items : List Json} {ls : List Literal} :
    itemsOfJson? items = some ls ↔ items.map ofJson? = ls.map some := by
  have hmapM : itemsOfJson? items = items.mapM ofJson? := by
    induction items with
    | nil => rfl
    | cons item rest ih => rw [itemsOfJson?, ih, List.mapM_cons]
  rw [hmapM, mapM_eq_some]

theorem ofJson?_toJson {l : Literal} (h : l.Plain) : ofJson? l.toJson = some l := by
  induction h with
  | null => rfl
  | number finite => rw [toJson, if_pos finite, ofJson?]
  | text => rfl
  | @list items _ ih =>
    have hitems : itemsOfJson? (itemsToJson items) = some items := by
      rw [itemsToJson_eq, itemsOfJson?_eq_some]
      exact map_map_eq ih
    rw [toJson, ofJson?, hitems, Option.map_some]

/-- What a well-formed value is read as holds no dates, since there is no form for them. -/
theorem plain_of_ofJson? {j : Json} (wellFormed : j.WellFormed) {l : Literal}
    (h : ofJson? j = some l) : l.Plain := by
  induction wellFormed generalizing l with
  | null =>
    cases h
    exact .null
  | bool => cases h
  | @int n low high =>
    have hl : .number (Double.ofInt n) = l := Option.some.inj h
    rw [← hl]
    exact .number (Double.ofInt_isFinite (by omega))
  | float finite =>
    cases h
    exact .number finite
  | str =>
    cases h
    exact .text
  | arr _ ih =>
    rcases Option.map_eq_some_iff.1 h with ⟨ls, hls, rfl⟩
    refine .list ?_
    intro l hl
    rcases exists_of_map_eq (itemsOfJson?_eq_some.1 hls) hl with ⟨item, hitem, hread⟩
    exact ih item hitem hread
  | obj _ _ => cases h

theorem decode_eq_ok {j : Json} {l : Literal} : decode j = .ok l ↔ ofJson? j = some l := by
  rw [decode]
  cases ofJson? j with
  | none => simp
  | some l' => simp

theorem decode_toJson {l : Literal} (h : l.Plain) : decode l.toJson = .ok l :=
  decode_eq_ok.2 (ofJson?_toJson h)

end Literal

/-! ## Leaves -/

theorem Operator.decode_toJson (op : Operator) : decode op.toJson = .ok op := by
  cases op with
  | _ => rfl

theorem Combinator.decode_toJson (c : Combinator) : decode c.toJson = .ok c := by
  cases c with
  | _ => rfl

namespace Leaf

theorem decodeSubject_obj (id : String) : decodeSubject (.obj [("id", .str id)]) = .ok id :=
  rfl

theorem decode_toJson {l : Leaf} (plain : l.operand.Plain) : decode l.toJson = .ok l := by
  have hsubject := decodeSubject_obj l.conditionId
  have hoperator := l.operator.decode_toJson
  have hoperand := Literal.decode_toJson plain
  have hrecord : Json.record "ConditionLeaf" [Json.field "leftOperand" decodeSubject,
      Json.field "operator" Operator.decode, Json.field "rightOperand" Literal.decode] l.toJson =
      .ok [("leftOperand", .obj [("id", .str l.conditionId)]), ("operator", l.operator.toJson),
        ("rightOperand", l.operand.toJson)] := by
    apply Json.record_obj
    · simp only [List.forall_mem_cons, List.not_mem_nil, false_imp_iff, implies_true, and_true]
      exact ⟨Json.fills_field rfl hsubject, Json.fills_field rfl hoperator,
        Json.fills_field rfl hoperand⟩
    · simp
    · simp [Json.field]
  refine bind_eq_ok.2 ⟨_, hrecord, ?_⟩
  refine bind_eq_ok.2 ⟨l.conditionId, Json.get_eq_ok.2 ⟨_, rfl, hsubject⟩, ?_⟩
  refine bind_eq_ok.2 ⟨l.operator, Json.get_eq_ok.2 ⟨_, rfl, hoperator⟩, ?_⟩
  exact bind_eq_ok.2 ⟨l.operand, Json.get_eq_ok.2 ⟨_, rfl, hoperand⟩, rfl⟩

/-- What a leaf compares with is a literal that a part of a well-formed value was read as. -/
theorem plain_of_decode {j : Json} (wellFormed : j.WellFormed) {l : Leaf} (h : decode j = .ok l) :
    l.operand.Plain := by
  simp only [decode, bind_eq_ok, pure_eq_ok, Json.get_eq_ok, Literal.decode_eq_ok] at h
  rcases h with ⟨r, hrecord, _, _, _, _, operand, ⟨part, hpart, hread⟩, rfl⟩
  exact Literal.plain_of_ofJson? (wellFormed.partOf (Json.partOf_of_record hrecord hpart)) hread

theorem ofJson?_eq_some {j : Json} {l : Leaf} : ofJson? j = some l ↔ decode j = .ok l := by
  rw [ofJson?, toOption_eq_some]

end Leaf

/-! ## Nodes -/

namespace Node

/-- Nodes that documents hold: what their leaves compare with is plain. -/
def Plain (n : Node) : Prop :=
  ∀ l ∈ n.leaves, l.operand.Plain

theorem plain_group {combinator : Combinator} {children : List Node} :
    (group combinator children).Plain ↔ ∀ n ∈ children, n.Plain := by
  constructor
  · intro h n hn l hl
    exact h l (mem_leaves_group.2 ⟨n, hn, hl⟩)
  · intro h l hl
    rcases mem_leaves_group.1 hl with ⟨n, hn, hln⟩
    exact h n hn l hln

/-! ### From nodes to documents and back -/

/-- The form of a group is none of a leaf, since it has nothing for a leaf's left side. -/
theorem leaf_ofJson?_group (combinator : Combinator) (items : List Json) :
    Leaf.ofJson? (.obj [("operator", combinator.toJson), ("conditions", .arr items)]) = none := by
  cases combinator with
  | _ => rfl

theorem listToJson_eq (nodes : List Node) : listToJson nodes = nodes.map toJson := by
  induction nodes with
  | nil => simp [listToJson]
  | cons n rest ih => rw [listToJson, ih, List.map_cons]

/-- Children are read one for one. -/
theorem listOfJson?_eq_some {items : List Json} {nodes : List Node} :
    listOfJson? items = some nodes ↔ items.map ofJson? = nodes.map some := by
  have hmapM : listOfJson? items = items.mapM ofJson? := by
    induction items with
    | nil => simp [listOfJson?]
    | cons item rest ih => rw [listOfJson?, ih, List.mapM_cons]
  rw [hmapM, mapM_eq_some]

theorem ofJson?_toJson {n : Node} (h : n.Plain) : ofJson? n.toJson = some n := by
  induction n with
  | leaf l =>
    have hleaf : Leaf.ofJson? l.toJson = some l :=
      Leaf.ofJson?_eq_some.2 (Leaf.decode_toJson (h l (List.mem_singleton.2 rfl)))
    rw [toJson, ofJson?.eq_def, hleaf]
  | group combinator children ih =>
    have hchildren : listOfJson? (listToJson children) = some children := by
      rw [listToJson_eq, listOfJson?_eq_some]
      exact map_map_eq fun n hn => ih n hn (plain_group.1 h n hn)
    have hcombinator : (Combinator.decode combinator.toJson).toOption = some combinator := by
      rw [combinator.decode_toJson]
      rfl
    -- leaves are tried first, and the form of a group is none
    rw [toJson, ofJson?.eq_def, leaf_ofJson?_group]
    simp [partsOfMembers?, hchildren, hcombinator, Parts.toNode?]

/-! ### What documents are read as -/

/-- The children that the members of an object give a group are read from an array in them. -/
theorem exists_of_partsOfMembers? {members : List (String × Json)} {parts : Parts}
    (h : partsOfMembers? members = some parts) {children : List Node}
    (given : parts.children = some children) :
    ∃ m ∈ members, ∃ items, m.2 = .arr items ∧ listOfJson? items = some children := by
  induction members generalizing parts with
  | nil =>
    rw [partsOfMembers?] at h
    cases h
    cases given
  | cons m rest ih =>
    rcases m with ⟨name, value⟩
    have hlater : (∃ m ∈ rest, ∃ items, m.2 = .arr items ∧ listOfJson? items = some children) →
        ∃ m ∈ (name, value) :: rest, ∃ items, m.2 = .arr items ∧
          listOfJson? items = some children := by
      rintro ⟨m, hm, hitems⟩
      exact ⟨m, List.mem_cons_of_mem _ hm, hitems⟩
    rw [partsOfMembers?] at h
    rcases Option.bind_eq_some_iff.1 h with ⟨before, hbefore, hname⟩
    split at hname
    · -- a combinator, which must not be given once more
      split at hname
      · cases hname
      · rcases Option.bind_eq_some_iff.1 hname with ⟨combinator, _, hparts⟩
        cases hparts
        exact hlater (ih hbefore given)
    · split at hname
      · -- the children, which must not be given once more either
        split at hname
        · cases hname
        · split at hname
          · rcases Option.bind_eq_some_iff.1 hname with ⟨nodes, hnodes, hparts⟩
            cases hparts
            cases given
            exact ⟨_, List.mem_cons_self, _, rfl, hnodes⟩
          · cases hname
      · cases hname
        exact hlater (ih hbefore given)

/-- A node is read from a value as a leaf, or as a group whose children stand in an array that is part
of the value. -/
theorem cases_of_ofJson? {j : Json} {n : Node} (h : ofJson? j = some n) :
    (∃ l, Leaf.decode j = .ok l ∧ n = .leaf l) ∨
    ∃ combinator children items, Json.PartOf (.arr items) j ∧
      listOfJson? items = some children ∧ n = .group combinator children := by
  rw [ofJson?.eq_def] at h
  cases hleaf : Leaf.ofJson? j with
  | some l =>
    rw [hleaf] at h
    exact .inl ⟨l, Leaf.ofJson?_eq_some.1 hleaf, (Option.some.inj h).symm⟩
  | none =>
    rw [hleaf] at h
    dsimp only at h
    right
    split at h
    · -- an array of a combinator and the children
      rcases Option.bind_eq_some_iff.1 h with ⟨combinator, _, hrest⟩
      rcases Option.bind_eq_some_iff.1 hrest with ⟨children, hread, hgroup⟩
      exact ⟨combinator, children, _, .item (by simp), hread, (Option.some.inj hgroup).symm⟩
    · -- an object, whose members may stand in any order
      rcases Option.bind_eq_some_iff.1 h with ⟨parts, hparts, hnode⟩
      rcases Option.bind_eq_some_iff.1 hnode with ⟨combinator, _, hrest⟩
      rcases Option.bind_eq_some_iff.1 hrest with ⟨children, hchildren, hgroup⟩
      rcases exists_of_partsOfMembers? hparts hchildren with ⟨⟨name, value⟩, hm, items, rfl, hread⟩
      exact ⟨combinator, children, items, .member hm, hread, (Option.some.inj hgroup).symm⟩
    · cases h

/-- A node that a well-formed value is read as is plain.  The children of a group are parts of a part
of the value, so of arrays it is shown besides that what is read from their items is plain. -/
theorem plain_of_wellFormed {j : Json} (wellFormed : j.WellFormed) :
    (∀ n, ofJson? j = some n → n.Plain) ∧
    ∀ items nodes, j = .arr items → listOfJson? items = some nodes → ∀ n ∈ nodes, n.Plain := by
  refine Json.WellFormed.part_induction (motive := fun j =>
    (∀ n, ofJson? j = some n → n.Plain) ∧
    ∀ items nodes, j = .arr items → listOfJson? items = some nodes → ∀ n ∈ nodes, n.Plain) ?_ wellFormed
  intro j wellFormed ih
  refine ⟨?_, ?_⟩
  · intro n h
    rcases cases_of_ofJson? h with ⟨l, hl, rfl⟩ | ⟨combinator, children, items, hpart, hread, rfl⟩
    · intro l' hl'
      have hsame : l' = l := List.mem_singleton.1 hl'
      rw [hsame]
      exact Leaf.plain_of_decode wellFormed hl
    · exact plain_group.2 ((ih _ hpart).2 items children rfl hread)
  · rintro items nodes rfl hread n hn
    rcases exists_of_map_eq (listOfJson?_eq_some.1 hread) hn with ⟨item, hitem, hitemRead⟩
    exact (ih item (.item hitem)).1 n hitemRead

theorem plain_of_ofJson? {j : Json} (wellFormed : j.WellFormed) {n : Node} (h : ofJson? j = some n) :
    n.Plain :=
  (plain_of_wellFormed wellFormed).1 n h

theorem decode_eq_ok {j : Json} {n : Node} : decode j = .ok n ↔ ofJson? j = some n := by
  rw [decode]
  cases ofJson? j with
  | none => simp
  | some n' => simp

end Node

/-! ## Trees -/

namespace Tree

/-- Conditions that documents hold: no dates, and no numbers that are not finite, at any depth. -/
def Plain (t : Tree) : Prop :=
  t.root.Plain

theorem decode_toJson {t : Tree} (plain : t.Plain) : decode t.toJson = .ok t := by
  have hcombinator := t.combinator.decode_toJson
  have hchildren : Json.sequence Node.decode (.arr (Node.listToJson t.children)) =
      .ok t.children := by
    refine Json.sequence_eq_ok.2 ⟨_, rfl, ?_⟩
    rw [Node.listToJson_eq]
    refine map_map_eq ?_
    intro n hn
    exact Node.decode_eq_ok.2 (Node.ofJson?_toJson (Node.plain_group.1 plain n hn))
  have hform : t.toJson = .obj [("operator", t.combinator.toJson),
      ("conditions", .arr (Node.listToJson t.children))] := by
    rw [toJson, root, Node.toJson]
  have hrecord : Json.record "ConditionGroup" [Json.field "operator" Combinator.decode,
      Json.field "conditions" (Json.sequence Node.decode)] t.toJson =
      .ok [("operator", t.combinator.toJson), ("conditions", .arr (Node.listToJson t.children))] := by
    rw [hform]
    apply Json.record_obj
    · simp only [List.forall_mem_cons, List.not_mem_nil, false_imp_iff, implies_true, and_true]
      exact ⟨Json.fills_field rfl hcombinator, Json.fills_field rfl hchildren⟩
    · simp
    · simp [Json.field]
  refine bind_eq_ok.2 ⟨_, hrecord, ?_⟩
  refine bind_eq_ok.2 ⟨t.combinator, Json.get_eq_ok.2 ⟨_, rfl, hcombinator⟩, ?_⟩
  exact bind_eq_ok.2 ⟨t.children, Json.get_eq_ok.2 ⟨_, rfl, hchildren⟩, rfl⟩

theorem plain_of_decode {j : Json} (wellFormed : j.WellFormed) {t : Tree} (h : decode j = .ok t) :
    t.Plain := by
  simp only [decode, bind_eq_ok, pure_eq_ok, Json.get_eq_ok, Json.sequence_eq_ok] at h
  rcases h with ⟨r, hrecord, combinator, _, children, ⟨_, hpart, items, rfl, hread⟩, rfl⟩
  have hitems : (Json.arr items).WellFormed :=
    wellFormed.partOf (Json.partOf_of_record hrecord hpart)
  refine Node.plain_group.2 ?_
  intro n hn
  rcases exists_of_map_eq hread hn with ⟨item, hitem, hdecoded⟩
  exact Node.plain_of_ofJson? (hitems.partOf (.item hitem)) (Node.decode_eq_ok.1 hdecoded)

/-- A condition that is given as a JSON text is decoded from its own form again. -/
theorem decode_toJson_of_read {options : Json.ReadOptions} {s : String} {j : Json}
    (text : Json.read options s = .whole j) {t : Tree} (h : decode j = .ok t) :
    decode t.toJson = .ok t :=
  decode_toJson (plain_of_decode (Json.read_wellFormed text) h)

end Tree

/-- A condition that documents can hold is decoded from its JSON form as it was, and whatever a
condition is decoded from, it is one of these, so that it is decoded from its own form again. -/
theorem conditions_survive_documents :
    (∀ t : Tree, t.Plain → Tree.decode t.toJson = .ok t) ∧
    ∀ (j : Json) (t : Tree), j.WellFormed → Tree.decode j = .ok t →
      t.Plain ∧ Tree.decode t.toJson = .ok t := by
  refine ⟨fun t => Tree.decode_toJson, ?_⟩
  intro j t hj hdecoded
  have hplain : t.Plain := Tree.plain_of_decode hj hdecoded
  exact ⟨hplain, Tree.decode_toJson hplain⟩

namespace Sample

/-- A condition given as an array, with an unknown combinator and operator in it, a list of literals and
an empty group whose combinator is given as an object. -/
def spelling : Json :=
  .arr [.str "xor",
    .arr [.arr [.arr [.str "d1"], .str "like", .arr [.float (Double.zero true), .null]],
      .obj [("conditions", .arr []), ("operator", .obj [("or", .null)])]]]

/-- The condition that is spelled so. -/
def spelled : Tree :=
  ⟨.unknown, [.leaf ⟨"d1", .unknown, .list [.number (Double.zero true), .null]⟩, .group .or []]⟩

theorem spelling_wellFormed : spelling.WellFormed := by
  have hoperand : Json.WellFormed (.arr [.float (Double.zero true), .null]) :=
    .arr (by simpa using ⟨.float rfl, .null⟩)
  have hleaf : Json.WellFormed
      (.arr [.arr [.str "d1"], .str "like", .arr [.float (Double.zero true), .null]]) :=
    .arr (by simpa using ⟨.arr (by simpa using .str), .str, hoperand⟩)
  have hgroup : Json.WellFormed
      (.obj [("conditions", .arr []), ("operator", .obj [("or", .null)])]) :=
    .obj (by simpa using ⟨.arr (by simp), .obj (by simpa using .null)⟩)
  exact .arr (by simpa using ⟨.str, .arr (by simpa using ⟨hleaf, hgroup⟩)⟩)

theorem decode_spelling : Tree.decode spelling = .ok spelled := by
  rfl

end Sample

/-- A condition in an unusual spelling comes to rest in its usual one. -/
theorem conditions_survive_documents_once_spelled :
    Sample.spelled.Plain ∧ Tree.decode Sample.spelled.toJson = .ok Sample.spelled :=
  conditions_survive_documents.2 Sample.spelling Sample.spelled Sample.spelling_wellFormed
    Sample.decode_spelling

end EventRewards
