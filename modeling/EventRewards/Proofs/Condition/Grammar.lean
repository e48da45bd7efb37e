import EventRewards.Proofs.Condition.Acceptance
import EventRewards.Proofs.Condition.Documents
import EventRewards.Proofs.Json.Forms

/-!
# The grammar of conditions

Which JSON values are decoded as nodes of a condition, and as which.  The relations here say what the
forms of literals, leaves and nodes are, without a word on the order in which things are tried, and
decoding is shown to accept these forms and no others.
-/

namespace EventRewards

/-! ## Literals -/

namespace Literal

/-- The forms of literals.  There is none for a date, and no boolean and no object is one. -/
inductive FormOf : Json → Literal → Prop where
  | null : FormOf .null .null
  | int {n : Int} : FormOf (.int n) (.number (Double.ofInt n))
  | float {x : Double} : FormOf (.float x) (.number x)
  | text {s : String} : FormOf (.str s) (.text s)
  | list {items : List Json} {ls : List Literal} (each : List.Forall₂ FormOf items ls) :
      FormOf (.arr items) (.list ls)

/-- The induction is on what is inside a value, and the items of a list are. -/
theorem ofJson?_iff_formOf (j : Json) : ∀ l, ofJson? j = some l ↔ FormOf j l := by
  refine Json.nested_induction (motive := fun j => ∀ l, ofJson? j = some l ↔ FormOf j l) ?_ j
  intro j ih l
  cases j with
  | arr items =>
    have hitems : ∀ ls, itemsOfJson? items = some ls ↔ List.Forall₂ FormOf items ls := by
      intro ls
      rw [itemsOfJson?_eq_some, map_eq_map_iff_forall₂]
      exact forall₂_congr_left fun item hitem => ih item (.single (.item hitem))
    rw [ofJson?, Option.map_eq_some_iff]
    constructor
    · rintro ⟨ls, hls, rfl⟩
      exact .list ((hitems ls).1 hls)
    · intro h
      cases h with
      | list each => exact ⟨_, (hitems _).2 each, rfl⟩
  | null | int n | float x | str s =>
    constructor
    · rintro ⟨⟩
      constructor
    · rintro ⟨⟩
      rfl
  | bool b | obj members =>
    constructor
    · rintro ⟨⟩
    · rintro ⟨⟩

end Literal

/-! ## Operators and combinators -/

/-- The forms of an operator are those of the names that stand for it. -/
def Operator.FormOf (j : Json) (op : Operator) : Prop :=
  ∃ text, Json.NameForm text j ∧ Json.StandsFor Operator.name .unknown text op

/-- The forms of a combinator are those of the names that stand for it. -/
def Combinator.FormOf (j : Json) (c : Combinator) : Prop :=
  ∃ text, Json.NameForm text j ∧ Json.StandsFor Combinator.name .unknown text c

theorem Operator.decode_iff_formOf {j : Json} {op : Operator} :
    decode j = .ok op ↔ FormOf j op :=
  Json.enumeration_iff_form (fun _ => mem_known_iff) (by decide)

theorem Combinator.decode_iff_formOf {j : Json} {c : Combinator} :
    decode j = .ok c ↔ FormOf j c := by
  have hlisted : ∀ c, c ∈ [and, or] ↔ c ≠ .unknown := by
    intro c
    simp [ne_unknown_iff]
  have hdistinct : ([and, or].map name).Nodup := by decide
  exact Json.enumeration_iff_form hlisted hdistinct

/-! ## Leaves -/

namespace Leaf

/-- The forms of what a leaf compares. -/
def SubjectForm (id : String) (j : Json) : Prop :=
  Json.RecordForm ["id"] [.str id] j

/-- The forms of a leaf. -/
inductive FormOf (j : Json) (l : Leaf) : Prop where
  | intro {subject operator operand : Json}
      (parts : Json.RecordForm ["leftOperand", "operator", "rightOperand"]
        [subject, operator, operand] j)
      (subjectForm : SubjectForm l.conditionId subject)
      (operatorForm : Operator.FormOf operator l.operator)
      (operandForm : Literal.FormOf operand l.operand)

theorem decodeSubject_iff_form {j : Json} {id : String} :
    decodeSubject j = .ok id ↔ SubjectForm id j := by
  have hform := @Json.record_iff_form [Json.field "id" Json.asText] (by simp) (by simp)
    "LeftOperand" j [.str id]
  simpa [decodeSubject, SubjectForm, bind_eq_ok, Json.get_eq_ok, Json.asText_eq_ok,
    Json.field_check_eq_ok] using hform

/-- The record of a leaf is read from the forms of a record with its three fields. -/
theorem record_iff_form {j subject operator operand : Json} :
    (∃ r, Json.record "ConditionLeaf" [Json.field "leftOperand" decodeSubject,
        Json.field "operator" Operator.decode, Json.field "rightOperand" Literal.decode] j = .ok r ∧
      r.lookup "leftOperand" = some subject ∧ r.lookup "operator" = some operator ∧
      r.lookup "rightOperand" = some operand) ↔
    Json.RecordForm ["leftOperand", "operator", "rightOperand"] [subject, operator, operand] j ∧
      (∃ id, decodeSubject subject = .ok id) ∧ (∃ op, Operator.decode operator = .ok op) ∧
      ∃ l, Literal.decode operand = .ok l := by
  have hform := @Json.record_iff_form [Json.field "leftOperand" decodeSubject,
      Json.field "operator" Operator.decode, Json.field "rightOperand" Literal.decode]
    (by simp) (by simp) "ConditionLeaf" j [subject, operator, operand]
  simpa [Json.field_check_eq_ok] using hform

theorem decode_iff_formOf {j : Json} {l : Leaf} : decode j = .ok l ↔ FormOf j l := by
  constructor
  · intro h
    simp only [decode, bind_eq_ok, pure_eq_ok, Json.get_eq_ok] at h
    rcases h with ⟨r, hr, id, ⟨subject, hsubject, hid⟩, op, ⟨operator, hoperator, hop⟩,
      operandRead, ⟨operand, hoperand, hread⟩, rfl⟩
    have hparts := (record_iff_form.1 ⟨r, hr, hsubject, hoperator, hoperand⟩).1
    exact ⟨hparts, decodeSubject_iff_form.1 hid, Operator.decode_iff_formOf.1 hop,
      (Literal.ofJson?_iff_formOf operand _).1 (Literal.decode_eq_ok.1 hread)⟩
  · rintro ⟨parts, subjectForm, operatorForm, operandForm⟩
    have hid := decodeSubject_iff_form.2 subjectForm
    have hop := Operator.decode_iff_formOf.2 operatorForm
    have hread := Literal.decode_eq_ok.2 ((Literal.ofJson?_iff_formOf _ _).2 operandForm)
    rcases record_iff_form.2 ⟨parts, ⟨_, hid⟩, ⟨_, hop⟩, ⟨_, hread⟩⟩ with
      ⟨r, hr, hsubject, hoperator, hoperand⟩
    simp only [decode, bind_eq_ok, pure_eq_ok, Json.get_eq_ok]
    exact ⟨r, hr, _, ⟨_, hsubject, hid⟩, _, ⟨_, hoperator, hop⟩, _, ⟨_, hoperand, hread⟩, rfl⟩

end Leaf

/-! ## Nodes -/

namespace Node

/-- The forms of nodes.  Nothing that has the form of a leaf is a group. -/
inductive FormOf : Json → Node → Prop where
  | leaf {j : Json} {l : Leaf} (form : Leaf.FormOf j l) : FormOf j (.leaf l)
  | group {j operator : Json} {items : List Json} {combinator : Combinator} {children : List Node}
      (noLeaf : ∀ l, ¬Leaf.FormOf j l)
      (parts : Json.RecordForm ["operator", "conditions"] [operator, .arr items] j)
      (combinatorForm : Combinator.FormOf operator combinator)
      (each : List.Forall₂ FormOf items children) : FormOf j (.group combinator children)

/-- The children that stand in a value, if it is an array. -/
def childrenOf? : Json → Option (List Node)
  | .arr items => listOfJson? items
  | _ => none

/-- What the members of one name give: nothing where there is none, and what is read where there is
one. -/
def Yields {α : Type} (members : List (String × Json)) (name : String) (read : Json → Option α)
    (result : Option α) : Prop :=
  (members.filter (·.1 == name)).map (read ·.2) = result.toList.map some

theorem yields_cons_own {α : Type} {rest : List (String × Json)} {name : String} {value : Json}
    {read : Json → Option α} {result : Option α} :
    Yields ((name, value) :: rest) name read result ↔
      Yields rest name read none ∧ ∃ a, read value = some a ∧ some a = result := by
  cases result with
  | none => simp [Yields]
  | some a => simp [Yields, and_comm]

theorem yields_cons_other {α : Type} {rest : List (String × Json)} {name given : String}
    {value : Json} {read : Json → Option α} {result : Option α} (other : given ≠ name) :
    Yields ((given, value) :: rest) name read result ↔ Yields rest name read result := by
  simp [Yields, other]

/-- What a name yields is read from what the object gives under it. -/
theorem yields_some {α : Type} {members : List (String × Json)} {name : String}
    {read : Json → Option α} {a : α} :
    Yields members name read (some a) ↔
      ∃ value, Json.Gives members name value ∧ read value = some a := by
  simp only [Json.gives_iff_filter, Yields, Option.toList_some, List.map_cons, List.map_nil,
    List.map_eq_singleton_iff]
  constructor
  · rintro ⟨⟨given, value⟩, hm, hread⟩
    have hmem : (given, value) ∈ members.filter (·.1 == name) := by simp [hm]
    have hname : given = name := by simpa using List.of_mem_filter hmem
    rw [hname] at hm
    exact ⟨value, hm, hread⟩
  · rintro ⟨value, hm, hread⟩
    exact ⟨_, hm, hread⟩

/-- One more member gives the combinator or the children, if the members after it do not, or nothing. -/
theorem partsOfMembers?_cons_eq_some {members : List (String × Json)} {name : String} {value : Json}
    {parts : Parts} :
    partsOfMembers? ((name, value) :: members) = some parts ↔
      ∃ after, partsOfMembers? members = some after ∧
        if name = "operator" then
          after.combinator = none ∧
            (∃ c, (Combinator.decode value).toOption = some c ∧ some c = parts.combinator) ∧
            after.children = parts.children
        else if name = "conditions" then
          after.children = none ∧ after.combinator = parts.combinator ∧
            ∃ nodes, childrenOf? value = some nodes ∧ some nodes = parts.children
        else after = parts := by
  rcases parts with ⟨combinator, children⟩
  rw [partsOfMembers?, Option.bind_eq_bind, Option.bind_eq_some_iff]
  refine exists_congr ?_
  rintro ⟨combinatorAfter, childrenAfter⟩
  refine and_congr_right ?_
  intro _
  -- a name given twice is refused: the member after it has filled the field
  split
  · cases combinatorAfter with
    | none => simp [Option.bind_eq_some_iff, ← and_assoc]
    | some c => simp
  · split
    · cases childrenAfter with
      | none =>
        cases value with
        | arr items => simp [childrenOf?, Option.bind_eq_some_iff, and_left_comm]
        | null | bool b | int n | float x | str s | obj others => simp [childrenOf?]
      | some nodes => simp
    · simp

/-- The fields that an object gives a group are what the two names yield. -/
theorem partsOfMembers?_eq_some {members : List (String × Json)} {parts : Parts} :
    partsOfMembers? members = some parts ↔
      Yields members "operator" (fun value => (Combinator.decode value).toOption) parts.combinator ∧
        Yields members "conditions" childrenOf? parts.children := by
  induction members generalizing parts with
  | nil =>
    rcases parts with ⟨combinator, children⟩
    cases combinator <;> cases children <;> simp [partsOfMembers?, Yields]
  | cons m rest ih =>
    rcases m with ⟨name, value⟩
    simp only [partsOfMembers?_cons_eq_some, ih]
    -- a member counts for one of the two names at most
    by_cases hoperator : name = "operator"
    · subst hoperator
      rw [yields_cons_own, yields_cons_other (by decide)]
      simp only [if_pos]
      constructor
      · rintro ⟨⟨after, others⟩, ⟨hafter, hothers⟩, rfl, hread, rfl⟩
        exact ⟨⟨hafter, hread⟩, hothers⟩
      · rintro ⟨⟨hafter, hread⟩, hothers⟩
        exact ⟨⟨none, parts.children⟩, ⟨hafter, hothers⟩, rfl, hread, rfl⟩
    · rw [yields_cons_other hoperator]
      by_cases hconditions : name = "conditions"
      · subst hconditions
        rw [yields_cons_own]
        simp only [if_neg hoperator, if_pos]
        constructor
        · rintro ⟨⟨others, after⟩, ⟨hothers, hafter⟩, rfl, rfl, hread⟩
          exact ⟨hothers, hafter, hread⟩
        · rintro ⟨hothers, hafter, hread⟩
          exact ⟨⟨parts.combinator, none⟩, ⟨hothers, hafter⟩, rfl, rfl, hread⟩
      · rw [yields_cons_other hconditions]
        simp [hoperator, hconditions]

theorem toNode?_eq_some {parts : Parts} {n : Node} :
    parts.toNode? = some n ↔ ∃ combinator children, parts.combinator = some combinator ∧
      parts.children = some children ∧ n = .group combinator children := by
  rcases parts with ⟨combinator, children⟩
  cases combinator <;> cases children <;> simp [Parts.toNode?, eq_comm]

theorem childrenOf?_eq_some {j : Json} {children : List Node} :
    childrenOf? j = some children ↔ ∃ items, j = .arr items ∧ listOfJson? items = some children := by
  cases j with
  | arr items => simp [childrenOf?]
  | null | bool b | int n | float x | str s | obj members => simp [childrenOf?]

/-- What is no leaf is read as a group, from the forms of a record of a combinator and an array. -/
theorem ofJson?_eq_some_of_noLeaf {j : Json} (noLeaf : Leaf.ofJson? j = none) {n : Node} :
    ofJson? j = some n ↔ ∃ operator items combinator children,
      Json.RecordForm ["operator", "conditions"] [operator, .arr items] j ∧
        Combinator.decode operator = .ok combinator ∧ listOfJson? items = some children ∧
        n = .group combinator children := by
  rw [ofJson?.eq_def, noLeaf]
  dsimp only
  split
  · next operator items =>
    simp only [Option.bind_eq_bind, Option.bind_eq_some_iff, toOption_eq_some]
    constructor
    · rintro ⟨combinator, hcombinator, children, hchildren, hn⟩
      exact ⟨operator, items, combinator, children, .array rfl, hcombinator, hchildren,
        (Option.some.inj hn).symm⟩
    · rintro ⟨_, _, combinator, children, ⟨_⟩, hcombinator, hchildren, rfl⟩
      exact ⟨combinator, hcombinator, children, hchildren, rfl⟩
  · next members =>
    simp only [Option.bind_eq_some_iff, toNode?_eq_some, partsOfMembers?_eq_some]
    constructor
    · rintro ⟨parts, ⟨hoperator, hconditions⟩, combinator, children, hcombinator, hchildren, rfl⟩
      rw [hcombinator, yields_some] at hoperator
      rw [hchildren, yields_some] at hconditions
      rcases hoperator with ⟨operator, hgiven, hread⟩
      rcases hconditions with ⟨value, hgivenToo, hreadToo⟩
      rcases childrenOf?_eq_some.1 hreadToo with ⟨items, rfl, hitems⟩
      exact ⟨operator, items, combinator, children, .object (by simp [hgiven, hgivenToo]),
        toOption_eq_some.1 hread, hitems, rfl⟩
    · rintro ⟨operator, items, combinator, children, ⟨hgives⟩, hcombinator, hchildren, rfl⟩
      simp only [List.forall₂_cons, List.forall₂_nil_left_iff, and_true] at hgives
      refine ⟨⟨some combinator, some children⟩, ⟨yields_some.2 ?_, yields_some.2 ?_⟩, combinator,
        children, rfl, rfl, rfl⟩
      · exact ⟨operator, hgives.1, toOption_eq_some.2 hcombinator⟩
      · exact ⟨.arr items, hgives.2, childrenOf?_eq_some.2 ⟨items, rfl, hchildren⟩⟩
  · next harray hobject =>
    simp only [reduceCtorEq, false_iff]
    rintro ⟨operator, items, combinator, children, hform, _⟩
    cases hform with
    | object gives => exact hobject _ rfl
    | array _ => exact harray _ _ rfl

/-- The induction is on what is inside a value: the children of a group are items of a part of it. -/
theorem ofJson?_iff_formOf (j : Json) : ∀ n, ofJson? j = some n ↔ FormOf j n := by
  refine Json.nested_induction (motive := fun j => ∀ n, ofJson? j = some n ↔ FormOf j n) ?_ j
  intro j ih n
  cases hleaf : Leaf.ofJson? j with
  | some l =>
    have hform : Leaf.FormOf j l := Leaf.decode_iff_formOf.1 (Leaf.ofJson?_eq_some.1 hleaf)
    rw [ofJson?.eq_def, hleaf]
    constructor
    · rintro ⟨⟩
      exact .leaf hform
    · intro h
      cases h with
      | @leaf _ l' form =>
        have hsame := Leaf.ofJson?_eq_some.2 (Leaf.decode_iff_formOf.2 form)
        rw [← hleaf, hsame]
      -- no group, since it is a leaf
      | group noLeaf _ _ _ => exact absurd hform (noLeaf l)
  | none =>
    have hnoLeaf : ∀ l, ¬Leaf.FormOf j l := by
      intro l form
      have hsome := Leaf.ofJson?_eq_some.2 (Leaf.decode_iff_formOf.2 form)
      rw [hleaf] at hsome
      cases hsome
    -- the items stand in a part of the value, so that they are inside of it
    have hitems {operator : Json} {items : List Json} {children : List Node}
        (parts : Json.RecordForm ["operator", "conditions"] [operator, .arr items] j) :
        listOfJson? items = some children ↔ List.Forall₂ FormOf items children := by
      rw [listOfJson?_eq_some, map_eq_map_iff_forall₂]
      refine forall₂_congr_left fun item hitem => ih item ?_
      exact .tail (.single (.item hitem)) (parts.partOf (by simp))
    rw [ofJson?_eq_some_of_noLeaf hleaf]
    constructor
    · rintro ⟨operator, items, combinator, children, parts, hcombinator, hchildren, rfl⟩
      exact .group hnoLeaf parts (Combinator.decode_iff_formOf.1 hcombinator)
        ((hitems parts).1 hchildren)
    · intro h
      cases h with
      | leaf form => exact absurd form (hnoLeaf _)
      | group _ parts combinatorForm each =>
        exact ⟨_, _, _, _, parts, Combinator.decode_iff_formOf.2 combinatorForm,
          (hitems parts).2 each, rfl⟩

theorem decode_iff_formOf {j : Json} {n : Node} : decode j = .ok n ↔ FormOf j n := by
  rw [decode_eq_ok, ofJson?_iff_formOf]

end Node

/-- A value is decoded as a node if and only if it has a form of the node.  What has the form of a leaf
is a leaf whatever else it has, and what has no form of any node is refused.  Every name of an operator
or a combinator is decoded as what it stands for, known or not. -/
theorem nodes_decoded_from_their_forms (j : Json) :
    (∀ n, Node.decode j = .ok n ↔ Node.FormOf j n) ∧
    (∀ l, Leaf.FormOf j l → Node.decode j = .ok (.leaf l)) ∧
    ((∀ n, ¬Node.FormOf j n) → Node.decode j = .error (.noVariant "ConditionNode")) ∧
    ∀ text, Json.NameForm text j →
      (∃ op, Operator.decode j = .ok op ∧ Json.StandsFor Operator.name .unknown text op) ∧
      ∃ c, Combinator.decode j = .ok c ∧ Json.StandsFor Combinator.name .unknown text c := by
  refine ⟨fun n => Node.decode_iff_formOf, ?_, ?_, ?_⟩
  · intro l form
    exact Node.decode_iff_formOf.2 (.leaf form)
  · intro hnone
    rw [Node.decode]
    cases hread : Node.ofJson? j with
    | none => rfl
    | some n => exact absurd ((Node.ofJson?_iff_formOf j n).1 hread) (hnone n)
  · intro text hname
    rcases Json.exists_standsFor Operator.name .unknown text with ⟨op, hop⟩
    rcases Json.exists_standsFor Combinator.name .unknown text with ⟨c, hc⟩
    exact ⟨⟨op, Operator.decode_iff_formOf.2 ⟨text, hname, hop⟩, hop⟩,
      ⟨c, Combinator.decode_iff_formOf.2 ⟨text, hname, hc⟩, hc⟩⟩

namespace Sample

/-- An object with the keys of a leaf and those of a group, and with an operator that is not known. -/
def ambiguous : Json :=
  .obj [("conditions", .arr []), ("operator", .obj [("like", .null)]),
    ("leftOperand", .arr [.str "d1"]), ("rightOperand", .arr [.null, .int 3])]

/-- The leaf that it is a form of. -/
def likeness : Leaf :=
  ⟨"d1", .unknown, .list [.null, .number (Double.ofInt 3)]⟩

theorem ambiguous_form : Leaf.FormOf ambiguous likeness := by
  have hgives : List.Forall₂ (Json.Gives [("conditions", .arr []), ("operator", .obj [("like", .null)]),
      ("leftOperand", .arr [.str "d1"]), ("rightOperand", .arr [.null, .int 3])])
      ["leftOperand", "operator", "rightOperand"]
      [.arr [.str "d1"], .obj [("like", .null)], .arr [.null, .int 3]] := by
    simp [Json.gives_iff_filter]
  have hoperator : Operator.FormOf (.obj [("like", .null)]) .unknown := by
    refine ⟨"like", .member, .unnamed ?_⟩
    intro op _
    cases op <;> decide
  have hoperand : Literal.FormOf (.arr [.null, .int 3]) likeness.operand :=
    .list (.cons .null (.cons .int .nil))
  exact .intro (.object hgives) (.array rfl) hoperator hoperand

end Sample

/-- Keys of a group do not keep an object from being a leaf, and neither does an unknown operator. -/
theorem nodes_decoded_from_their_forms_with_both_keys :
    Node.decode Sample.ambiguous = .ok (.leaf Sample.likeness) :=
  (nodes_decoded_from_their_forms Sample.ambiguous).2.1 Sample.likeness Sample.ambiguous_form

end EventRewards
