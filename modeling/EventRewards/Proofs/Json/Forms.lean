import EventRewards.Proofs.Json.Records
import EventRewards.Proofs.Keyed
import Mathlib.Data.List.Find
import Mathlib.Data.List.Forall2

/-!
# Forms of records and enumerations

A record all of whose fields are required has two forms: an object that gives each of them, whatever
else it gives, and the array of their values.  A name has two forms as well: the text of it, and an
object whose only member bears it and is null.  Reading a record or an enumeration accepts these
forms and no others.
-/

namespace EventRewards
namespace Json

/-! ## Records -/

/-- Whether an object gives a value under a name: it has this member, and no other of the name.  Where
no two members have one name, it is enough to have the member. -/
structure Gives (members : List (String × Json)) (name : String) (value : Json) : Prop where
  member : (name, value) ∈ members
  once : (members.map (·.1)).count name = 1

/-- The forms of a record whose fields have the given names and values. -/
inductive RecordForm (names : List String) (values : List Json) : Json → Prop where
  | object {members : List (String × Json)} (gives : List.Forall₂ (Gives members) names values) :
      RecordForm names values (.obj members)
  | array (complete : names.length = values.length) : RecordForm names values (.arr values)

theorem RecordForm.partOf {names : List String} {values : List Json} {value j : Json}
    (h : RecordForm names values j) (mem : value ∈ values) : value.PartOf j := by
  cases h with
  | object gives =>
    rcases exists_of_forall₂ gives.flip mem with ⟨name, _, hgives⟩
    exact .member hgives.member
  | array _ => exact .item mem

theorem gives_iff_filter {members : List (String × Json)} {name : String} {value : Json} :
    Gives members name value ↔ members.filter (·.1 == name) = [(name, value)] := by
  -- a name occurs as often as there are members of it
  have hcount : (members.map (·.1)).count name = (members.filter (·.1 == name)).length := by
    rw [List.count, List.countP_map, List.countP_eq_length_filter]
    rfl
  constructor
  · intro h
    have hmem : (name, value) ∈ members.filter (·.1 == name) := by
      simpa [List.mem_filter] using h.member
    rcases List.length_eq_one_iff.1 (hcount.symm.trans h.once) with ⟨m, hm⟩
    have heq : (name, value) = m := by simpa [hm] using hmem
    rw [hm, heq]
  · intro h
    have hmem : (name, value) ∈ members.filter (·.1 == name) := by simp [h]
    exact ⟨List.mem_of_mem_filter hmem, by rw [hcount, h]; rfl⟩

theorem Gives.unique {members : List (String × Json)} {name : String} {value value' : Json}
    (h : Gives members name value) (h' : (name, value') ∈ members) : value' = value := by
  have hmem : (name, value') ∈ members.filter (·.1 == name) := by
    simpa [List.mem_filter] using h'
  simpa [gives_iff_filter.1 h] using hmem

/-- What is given under a name is what is found under it. -/
theorem Gives.lookup {r : Record} {name : String} {value : Json} (h : Gives r name value) :
    r.lookup name = some value := by
  cases hfound : r.lookup name with
  | none => exact absurd (List.mem_map_of_mem h.member) (lookup_eq_none.1 hfound)
  | some value' => rw [h.unique (mem_of_lookup hfound)]

theorem gives_of_lookup {r : Record} (distinct : (r.map (·.1)).Nodup) {name : String} {value : Json}
    (found : r.lookup name = some value) : Gives r name value := by
  have hmem : (name, value) ∈ r := mem_of_lookup found
  exact ⟨hmem, List.count_eq_one_of_mem distinct (List.mem_map_of_mem hmem)⟩

/-- Whether a field is required, and goes by its own name alone. -/
def Field.IsPlain (f : Field) : Prop :=
  f.alias? = none ∧ f.required = true

@[simp]
theorem field_isPlain {α : Type} {name : String} {decode : Decoder α} :
    (field name decode).IsPlain :=
  ⟨rfl, rfl⟩

@[simp]
theorem field_name {α : Type} {name : String} {decode : Decoder α} :
    (field name decode).name = name :=
  rfl

/-- A field takes what its decoder reads. -/
theorem field_check_eq_ok {α : Type} {name : String} {decode : Decoder α} {j : Json} :
    (field name decode).check j = .ok () ↔ ∃ a, decode j = .ok a := by
  simp only [field]
  cases decode j with
  | error e => simp [Except.map]
  | ok a => simp [Except.map]

/-- The members of an object that are taken into a record. -/
def ownMembers (fields : List Field) (members : List (String × Json)) : List (String × Json) :=
  members.filter fun m => (fields.find? (·.goesBy m.1)).isSome

/-- A member of a field's name is taken in where the name is new and the field takes the value. -/
theorem gatherMembers_cons_eq_ok {fields : List Field} {found r : Record} {index : Nat} {f : Field}
    {value : Json} {rest : List (String × Json)} (own : fields.find? (·.goesBy f.name) = some f) :
    gatherMembers fields found index ((f.name, value) :: rest) = .ok r ↔
      (f.name ∉ found.map (·.1) ∧ f.check value = .ok ()) ∧
        gatherMembers fields (found ++ [(f.name, value)]) (index + 1) rest = .ok r := by
  have hnew : (found.lookup f.name).isSome = true ↔ ¬f.name ∉ found.map (·.1) := by
    rw [← lookup_eq_none, Option.isSome_iff_ne_none]
  rw [gatherMembers, own]
  simp only [refuse_eq_ok, hnew, not_not, and_assoc]
  cases f.check value with
  | error e => simp
  | ok done => simp

/-- An object is read as the record of what is gathered from it, if no required field is missing. -/
theorem record_obj_eq_ok {type : String} {fields : List Field} {members : List (String × Json)}
    {r : Record} :
    record type fields (.obj members) = .ok r ↔ gatherMembers fields [] 0 members = .ok r ∧
      ∀ f ∈ fields, f.required = true → r.lookup f.name ≠ none := by
  have hmissing : ∀ found : Record, firstMissing? fields found = none ↔
      ∀ f ∈ fields, f.required = true → found.lookup f.name ≠ none := by
    intro found
    simp [firstMissing?, List.find?_eq_none]
  simp only [record, bind_eq_ok]
  constructor
  · rintro ⟨found, hgathered, hrest⟩
    cases hfirst : firstMissing? fields found with
    | some name => simp [hfirst] at hrest
    | none =>
      have hr : found = r := by simpa [hfirst, pure_eq_ok] using hrest
      subst hr
      exact ⟨hgathered, (hmissing found).1 hfirst⟩
  · rintro ⟨hgathered, hcomplete⟩
    refine ⟨r, hgathered, ?_⟩
    rw [(hmissing r).2 hcomplete]
    rfl

/-- Of what bears a field's name nothing is lost when the other members are left out. -/
theorem gives_ownMembers {fields : List Field} {members : List (String × Json)} {f : Field}
    (hf : f ∈ fields) {value : Json} :
    Gives (ownMembers fields members) f.name value ↔ Gives members f.name value := by
  have hsame : (ownMembers fields members).filter (·.1 == f.name) =
      members.filter (·.1 == f.name) := by
    rw [ownMembers, List.filter_filter]
    apply List.filter_congr
    intro m _
    by_cases h : m.1 = f.name
    · have hfound : (fields.find? (·.goesBy m.1)).isSome = true := by
        rw [List.find?_isSome]
        exact ⟨f, hf, by simp [Field.goesBy, h]⟩
      simp [hfound]
    · simp [h]
  rw [gives_iff_filter, gives_iff_filter, hsame]

section Plain

variable {fields : List Field} (plain : ∀ f ∈ fields, f.IsPlain)
  (distinct : (fields.map (·.name)).Nodup)

include plain

theorem find?_goesBy (name : String) :
    fields.find? (·.goesBy name) = fields.find? (·.name == name) := by
  apply List.find?_congr
  intro f hf
  simp [Field.goesBy, (plain f hf).1]

theorem mem_ownMembers {members : List (String × Json)} {m : String × Json} :
    m ∈ ownMembers fields members ↔ m ∈ members ∧ m.1 ∈ fields.map (·.name) := by
  have hnone : (fields.find? (·.goesBy m.1)).isSome = true ↔ m.1 ∈ fields.map (·.name) := by
    rw [find?_goesBy plain, ← not_iff_not, Bool.not_eq_true, Option.isSome_eq_false_iff,
      Option.isNone_iff_eq_none]
    exact Keyed.find?_eq_none
  rw [ownMembers, List.mem_filter, hnone]

/-- The members that are taken in are those of the fields' names.  No name may be among them twice or
have been found before, and each has to have a value that its field takes. -/
theorem gatherMembers_eq_ok {found r : Record} {index : Nat} {members : List (String × Json)} :
    gatherMembers fields found index members = .ok r ↔
      r = found ++ ownMembers fields members ∧ ((ownMembers fields members).map (·.1)).Nodup ∧
        ∀ m ∈ ownMembers fields members, m.1 ∉ found.map (·.1) ∧ Fills fields m := by
  induction members generalizing found index with
  | nil => simp [gatherMembers, ownMembers, eq_comm]
  | cons m rest ih =>
    rcases m with ⟨name, value⟩
    cases hfield : fields.find? (·.goesBy name) with
    | none =>
      have hown : ownMembers fields ((name, value) :: rest) = ownMembers fields rest := by
        simp [ownMembers, hfield]
      simpa [gatherMembers, hfield, hown] using ih
    | some f =>
      have hname : f.name = name := by
        rw [find?_goesBy plain] at hfield
        exact (Keyed.of_find? hfield).2
      subst hname
      have hown : ownMembers fields ((f.name, value) :: rest) =
          (f.name, value) :: ownMembers fields rest := by
        simp [ownMembers, hfield]
      have hfills : Fills fields (f.name, value) ↔ f.check value = .ok () := by
        simp [Fills, hfield]
      have hnames : ∀ m : String × Json, m.1 ∉ (found ++ [(f.name, value)]).map (·.1) ↔
          m.1 ∉ found.map (·.1) ∧ m.1 ≠ f.name := by
        simp
      have hapart : f.name ∉ (ownMembers fields rest).map (·.1) ↔
          ∀ m ∈ ownMembers fields rest, m.1 ≠ f.name := by
        simp only [List.mem_map, not_exists, not_and, ne_eq]
      -- the new name must be found neither before nor after, whichever of the two is looked at first
      rw [gatherMembers_cons_eq_ok hfield, ih, hown, List.map_cons, List.nodup_cons,
        List.forall_mem_cons, hfills, hapart, List.append_assoc, List.singleton_append]
      simp only [hnames, and_assoc, forall_and]
      tauto

/-- The items that are taken in are those of the fields' places: one for each. -/
theorem gatherItems_eq_ok {shape : String} {given index : Nat} {items : List Json} {r : Record} :
    gatherItems shape given index fields items = .ok r ↔
      r = (fields.map (·.name)).zip items ∧
        List.Forall₂ (fun f item => f.check item = .ok ()) fields items := by
  induction fields generalizing index items r with
  | nil =>
    cases items with
    | nil => simp [gatherItems, eq_comm]
    | cons item rest => simp [gatherItems]
  | cons f fields ih =>
    rcases List.forall_mem_cons.1 plain with ⟨hplain, hothers⟩
    cases items with
    | nil => simp [gatherItems, hplain.2]
    | cons item rest =>
      cases hcheck : f.check item with
      | error e => simp [gatherItems, hcheck]
      | ok done =>
        simp only [gatherItems, hcheck, bind_eq_ok, pure_eq_ok, ih hothers, List.forall₂_cons,
          List.map_cons, List.zip_cons_cons, true_and]
        constructor
        · rintro ⟨others, ⟨rfl, hchecks⟩, rfl⟩
          exact ⟨rfl, hchecks⟩
        · rintro ⟨rfl, hchecks⟩
          exact ⟨_, ⟨rfl, hchecks⟩, rfl⟩

include distinct

theorem fills_iff {f : Field} (hf : f ∈ fields) {value : Json} :
    Fills fields (f.name, value) ↔ f.check value = .ok () := by
  have hown : fields.find? (·.goesBy f.name) = some f := by
    rw [find?_goesBy plain]
    exact Keyed.find?_of_mem distinct hf
  simp [Fills, hown]

/-- Where an object gives each field a value that it takes, nothing keeps its members from being taken
in. -/
theorem ownMembers_of_gives {members : List (String × Json)}
    (given : ∀ f ∈ fields, ∃ value, Gives members f.name value ∧ f.check value = .ok ()) :
    ((ownMembers fields members).map (·.1)).Nodup ∧
      ∀ m ∈ ownMembers fields members, Fills fields m := by
  have hfield : ∀ m ∈ ownMembers fields members, ∃ f ∈ fields, f.name = m.1 := by
    intro m hm
    simpa using ((mem_ownMembers plain).1 hm).2
  constructor
  · -- each name that is taken in is that of a field, and is given once
    rw [List.nodup_iff_count_le_one]
    intro name
    by_cases hname : name ∈ (ownMembers fields members).map (·.1)
    · rcases List.mem_map.1 hname with ⟨m, hm, rfl⟩
      rcases hfield m hm with ⟨f, hf, heq⟩
      rcases given f hf with ⟨value, hgives, _⟩
      rw [← heq]
      exact ((gives_ownMembers hf).2 hgives).once.le
    · rw [List.count_eq_zero.2 hname]
      exact Nat.zero_le 1
  · -- and the value taken in is the one that is given
    rintro ⟨name, value⟩ hm
    rcases hfield _ hm with ⟨f, hf, rfl⟩
    rcases given f hf with ⟨value', hgives, hcheck⟩
    have hvalue : value = value' := hgives.unique ((mem_ownMembers plain).1 hm).1
    rw [hvalue]
    exact (fills_iff plain distinct hf).2 hcheck

/-- What an object gives under the names of the fields is what is found in the record of it. -/
theorem record_obj_iff {type : String} {members : List (String × Json)} {values : List Json} :
    (∃ r, record type fields (.obj members) = .ok r ∧
      List.Forall₂ (fun f value => r.lookup f.name = some value) fields values) ↔
    List.Forall₂ (Gives members) (fields.map (·.name)) values ∧
      List.Forall₂ (fun f value => f.check value = .ok ()) fields values := by
  rw [List.forall₂_map_left_iff]
  constructor
  · rintro ⟨r, hr, hlookups⟩
    rcases (gatherMembers_eq_ok plain).1 (record_obj_eq_ok.1 hr).1 with ⟨rfl, hdistinct, hfills⟩
    -- the record holds what the object gives, and no name twice
    have hgives : List.Forall₂ (fun f value => f ∈ fields ∧
        Gives (ownMembers fields members) f.name value) fields values :=
      (List.forall₂_and_left _ _).2
        ⟨fun _ hf => hf, hlookups.imp fun _ _ h => gives_of_lookup hdistinct h⟩
    constructor
    · exact hgives.imp fun f value h => (gives_ownMembers h.1).1 h.2
    · exact hgives.imp fun f value h => (fills_iff plain distinct h.1).1 (hfills _ h.2.member).2
  · rintro ⟨hgives, hchecks⟩
    have hboth : List.Forall₂ (fun f value => Gives members f.name value ∧
        f.check value = .ok ()) fields values :=
      List.Forall₂.mp (fun _ _ => And.intro) hgives hchecks
    have hlookups : List.Forall₂ (fun f value =>
        (ownMembers fields members).lookup f.name = some value) fields values :=
      ((List.forall₂_and_left _ _).2 ⟨fun _ hf => hf, hgives⟩).imp fun f value h =>
        ((gives_ownMembers h.1).2 h.2).lookup
    have hgiven : ∀ f ∈ fields, ∃ value, Gives members f.name value ∧ f.check value = .ok () := by
      intro f hf
      rcases exists_of_forall₂ hboth hf with ⟨value, _, hvalue⟩
      exact ⟨value, hvalue⟩
    rcases ownMembers_of_gives plain distinct hgiven with ⟨hdistinct, hfills⟩
    have hgathered : gatherMembers fields [] 0 members = .ok (ownMembers fields members) :=
      (gatherMembers_eq_ok plain).2
        ⟨rfl, hdistinct, fun m hm => ⟨List.not_mem_nil, hfills m hm⟩⟩
    refine ⟨_, record_obj_eq_ok.2 ⟨hgathered, ?_⟩, hlookups⟩
    intro f hf _
    rcases exists_of_forall₂ hlookups hf with ⟨value, _, hvalue⟩
    rw [hvalue]
    exact Option.some_ne_none value

omit plain in
theorem lookup_zip {items : List Json} (complete : fields.length = items.length) :
    List.Forall₂ (fun f item => ((fields.map (·.name)).zip items).lookup f.name = some item)
      fields items := by
  induction fields generalizing items with
  | nil =>
    rw [List.length_eq_zero_iff.1 complete.symm]
    exact .nil
  | cons f fields ih =>
    rw [List.map_cons, List.nodup_cons] at distinct
    cases items with
    | nil => cases complete
    | cons item rest =>
      have hrest := ih distinct.2 (Nat.succ.inj complete)
      refine .cons (by simp) (((List.forall₂_and_left _ _).2 ⟨fun _ hf => hf, hrest⟩).imp ?_)
      rintro f' item' ⟨hf', hfound⟩
      -- the first name is none of the others
      have hne : (f'.name == f.name) = false :=
        beq_false_of_ne fun heq => distinct.1 (heq ▸ List.mem_map_of_mem hf')
      simpa [List.lookup_cons, hne] using hfound

/-- An array of one value for each field is read as the record of these. -/
theorem record_arr_iff {type : String} {items values : List Json} :
    (∃ r, record type fields (.arr items) = .ok r ∧
      List.Forall₂ (fun f value => r.lookup f.name = some value) fields values) ↔
    values = items ∧ List.Forall₂ (fun f value => f.check value = .ok ()) fields values := by
  constructor
  · rintro ⟨r, hr, hlookups⟩
    rcases (gatherItems_eq_ok plain).1 hr with ⟨rfl, hchecks⟩
    have hitems := lookup_zip distinct hchecks.length_eq
    -- under each name one value is found, so that the values are the items
    have hsame : values = items := by
      refine List.right_unique_forall₂' ?_ hlookups hitems
      intro f value value' h h'
      exact Option.some.inj (h.symm.trans h')
    subst hsame
    exact ⟨rfl, hchecks⟩
  · rintro ⟨rfl, hchecks⟩
    exact ⟨_, (gatherItems_eq_ok plain).2 ⟨rfl, hchecks⟩, lookup_zip distinct hchecks.length_eq⟩

/-- A record is read from its two forms, where its fields take their values, and from nothing else. -/
theorem record_iff_form {type : String} {j : Json} {values : List Json} :
    (∃ r, record type fields j = .ok r ∧
      List.Forall₂ (fun f value => r.lookup f.name = some value) fields values) ↔
    RecordForm (fields.map (·.name)) values j ∧
      List.Forall₂ (fun f value => f.check value = .ok ()) fields values := by
  cases j with
  | obj members =>
    rw [record_obj_iff plain distinct]
    constructor
    · rintro ⟨hgives, hchecks⟩
      exact ⟨.object hgives, hchecks⟩
    · rintro ⟨⟨hgives⟩, hchecks⟩
      exact ⟨hgives, hchecks⟩
  | arr items =>
    rw [record_arr_iff plain distinct]
    constructor
    · rintro ⟨rfl, hchecks⟩
      exact ⟨.array (by simpa using hchecks.length_eq), hchecks⟩
    · rintro ⟨hform, hchecks⟩
      cases hform with
      | array _ => exact ⟨rfl, hchecks⟩
  | null | bool b | int n | float x | str s =>
    constructor
    · rintro ⟨r, hr, _⟩
      cases hr
    · rintro ⟨hform, _⟩
      cases hform

end Plain

/-! ## Enumerations -/

/-- The forms of a name. -/
inductive NameForm (name : String) : Json → Prop where
  | text : NameForm name (.str name)
  | member : NameForm name (.obj [(name, .null)])

/-- What a text stands for among values that have names: the one of that name, or `other` where there
is none.  The name of `other` itself is no more than such a text. -/
inductive StandsFor {α : Type} (name : α → String) (other : α) : String → α → Prop where
  | named {a : α} (known : a ≠ other) : StandsFor name other (name a) a
  | unnamed {text : String} (unknown : ∀ a, a ≠ other → name a ≠ text) :
      StandsFor name other text other

theorem exists_standsFor {α : Type} (name : α → String) (other : α) (text : String) :
    ∃ a, StandsFor name other text a := by
  by_cases h : ∃ a, a ≠ other ∧ name a = text
  · rcases h with ⟨a, hknown, rfl⟩
    exact ⟨a, .named hknown⟩
  · refine ⟨other, .unnamed ?_⟩
    intro a hknown hname
    exact h ⟨a, hknown, hname⟩

/-- An enumeration is read from the two forms of a name, and from nothing else. -/
theorem enumeration_eq_ok {α : Type} {known : List (String × α)} {other : Option α} {j : Json}
    {a : α} : enumeration known other j = .ok a ↔
      ∃ text, NameForm text j ∧ variant known other text = .ok a := by
  constructor
  · intro h
    unfold enumeration at h
    split at h
    · exact ⟨_, .text, h⟩
    · cases h
    · next m =>
      rcases m with ⟨text, value⟩
      rcases bind_eq_ok.1 h with ⟨chosen, hchosen, hvalue⟩
      cases value with
      | null =>
        rw [← pure_eq_ok.1 hvalue]
        exact ⟨text, .member, hchosen⟩
      | bool b | int n | float x | str s | arr items | obj members => cases hvalue
    · cases h
    · cases h
  · rintro ⟨text, hform, h⟩
    cases hform with
    | text => exact h
    | member => exact bind_eq_ok.2 ⟨a, h, rfl⟩

section Enumerations

variable {α : Type} {name : α → String} {other : α} {known : List α}
  (listed : ∀ a, a ∈ known ↔ a ≠ other) (distinct : (known.map name).Nodup)

theorem lookup_map_name (text : String) :
    (known.map fun a => (name a, a)).lookup text = known.find? (name · == text) := by
  induction known with
  | nil => rfl
  | cons a rest ih =>
    by_cases h : name a = text
    · simp [h]
    · simp [List.lookup_cons, h, beq_false_of_ne (Ne.symm h), ih]

include listed distinct

/-- Every text is read as what it stands for. -/
theorem variant_eq_ok {text : String} {a : α} :
    variant (known.map fun a => (name a, a)) (some other) text = .ok a ↔
      StandsFor name other text a := by
  unfold variant
  rw [lookup_map_name]
  cases hfound : known.find? (name · == text) with
  | some b =>
    rcases Keyed.of_find? hfound with ⟨hb, hname⟩
    constructor
    · intro h
      have hab : b = a := Except.ok.inj h
      rw [← hname, ← hab]
      exact .named ((listed b).1 hb)
    · intro h
      cases h with
      | named hknown =>
        -- no two known values have one name
        have hab : b = a := List.inj_on_of_nodup_map distinct hb ((listed a).2 hknown) hname
        exact congrArg Except.ok hab
      | unnamed hunknown => exact absurd hname (hunknown b ((listed b).1 hb))
  | none =>
    have hunknown : ∀ a, a ≠ other → name a ≠ text := by
      rintro a hknown rfl
      exact Keyed.find?_eq_none.1 hfound (List.mem_map_of_mem ((listed a).2 hknown))
    constructor
    · rintro ⟨⟩
      exact .unnamed hunknown
    · intro h
      cases h with
      | named hknown => exact absurd rfl (hunknown a hknown)
      | unnamed _ => rfl

/-- Reading an enumeration that has a value for every text refuses nothing that has the form of a
name. -/
theorem enumeration_iff_form {j : Json} {a : α} :
    enumeration (known.map fun a => (name a, a)) (some other) j = .ok a ↔
      ∃ text, NameForm text j ∧ StandsFor name other text a := by
  simp only [enumeration_eq_ok, variant_eq_ok listed distinct]

end Enumerations

end Json
end EventRewards
