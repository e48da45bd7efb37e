import EventRewards.Json.Decode
import EventRewards.Proofs.Results
import Mathlib.Data.List.Nodup
import Mathlib.Logic.Relation

/-!
# Records and sequences in JSON

A sequence is read from an array, item for item.  What a record is found to hold are parts of the
value that it is read from.  An object is read as the record of its members where each of them bears
the name of a field, none bears that of another, and no field that is required is left out.
-/

namespace EventRewards
namespace Json

/-! ## Parts -/

/-- Whether a value is an item of another, or the value of one of its members. -/
inductive PartOf (part : Json) : Json → Prop where
  | item {items : List Json} (mem : part ∈ items) : PartOf part (.arr items)
  | member {name : String} {members : List (String × Json)} (mem : (name, part) ∈ members) :
      PartOf part (.obj members)

theorem PartOf.sizeOf_lt {part whole : Json} (h : part.PartOf whole) :
    sizeOf part < sizeOf whole := by
  cases h with
  | item mem =>
    have hlt := List.sizeOf_lt_of_mem mem
    simp only [arr.sizeOf_spec]
    omega
  | @member name _ mem =>
    have hlt := List.sizeOf_lt_of_mem mem
    simp only [obj.sizeOf_spec, Prod.mk.sizeOf_spec] at hlt ⊢
    omega

/-- What holds of a value whenever it holds of all that is inside the value holds of all values. -/
theorem nested_induction {motive : Json → Prop}
    (step : ∀ j, (∀ inner, Relation.TransGen PartOf inner j → motive inner) → motive j)
    (j : Json) : motive j := by
  have hparts : WellFounded PartOf := Subrelation.wf PartOf.sizeOf_lt (measure sizeOf).wf
  exact hparts.transGen.induction j step

theorem mem_of_lookup {r : Record} {name : String} {j : Json} (h : r.lookup name = some j) :
    (name, j) ∈ r := by
  rw [List.lookup_eq_some_iff] at h
  rcases h with ⟨before, rest, rfl, _⟩
  simp

theorem mem_of_gatherMembers {fields : List Field} {found r : Record} {index : Nat}
    {members : List (String × Json)} (h : gatherMembers fields found index members = .ok r)
    {name : String} {j : Json} (hj : (name, j) ∈ r) :
    (name, j) ∈ found ∨ ∃ name, (name, j) ∈ members := by
  induction members generalizing found index with
  | nil =>
    cases h
    exact .inl hj
  | cons m rest ih =>
    rcases m with ⟨given, value⟩
    rw [gatherMembers] at h
    split at h
    · -- a member that no field goes by is passed over
      rcases ih h with hfound | ⟨name', hrest⟩
      · exact .inl hfound
      · exact .inr ⟨name', List.mem_cons_of_mem _ hrest⟩
    · split at h
      · cases h
      · split at h
        · cases h
        · rcases ih h with hfound | ⟨name', hrest⟩
          · rcases List.mem_append.1 hfound with hold | hnew
            · exact .inl hold
            · cases List.mem_singleton.1 hnew
              exact .inr ⟨given, List.mem_cons_self⟩
          · exact .inr ⟨name', List.mem_cons_of_mem _ hrest⟩

theorem mem_of_gatherItems {shape : String} {given index : Nat} {fields : List Field}
    {items : List Json} {r : Record} (h : gatherItems shape given index fields items = .ok r)
    {name : String} {j : Json} (hj : (name, j) ∈ r) : j ∈ items := by
  induction fields generalizing index items r with
  | nil =>
    cases items with
    | nil =>
      cases h
      cases hj
    | cons item rest => cases h
  | cons f fields ih =>
    cases items with
    | nil =>
      -- a field that is left out gets nothing
      rw [gatherItems] at h
      split at h
      · cases h
      · exact ih h hj
    | cons item rest =>
      rw [gatherItems] at h
      split at h
      · cases h
      · cases hrest : gatherItems shape given (index + 1) fields rest with
        | error e =>
          rw [hrest] at h
          cases h
        | ok others =>
          rw [hrest] at h
          cases h
          rcases List.mem_cons.1 hj with hfirst | hothers
          · cases hfirst
            exact List.mem_cons_self
          · exact List.mem_cons_of_mem _ (ih hrest hothers)

/-- What a record holds under a name is a part of the value that it was read from. -/
theorem partOf_of_record {type : String} {fields : List Field} {whole : Json} {r : Record}
    (h : record type fields whole = .ok r) {name : String} {j : Json}
    (found : r.lookup name = some j) : j.PartOf whole := by
  have hmem := mem_of_lookup found
  cases whole with
  | arr items => exact .item (mem_of_gatherItems h hmem)
  | obj members =>
    rw [record] at h
    cases hgathered : gatherMembers fields [] 0 members with
    | error e =>
      rw [hgathered] at h
      cases h
    | ok found =>
      rw [hgathered] at h
      have hsame : found = r := by
        simp only [bind, Except.bind] at h
        split at h
        · cases h
        · exact Except.ok.inj h
      rw [hsame] at hgathered
      rcases mem_of_gatherMembers hgathered hmem with hnone | ⟨name', hmember⟩
      · cases hnone
      · exact .member hmember
  | null | bool b | int n | float x | str s => cases h

theorem asText_eq_ok {j : Json} {s : String} : asText j = .ok s ↔ j = .str s := by
  cases j with
  | str t => simp [asText]
  | null | bool b | int n | float x | arr items | obj members => simp [asText]

/-- What is got from a record is decoded from what the record holds under the name. -/
theorem get_eq_ok {α : Type} {r : Record} {name : String} {decode : Decoder α} {a : α} :
    r.get name decode = .ok a ↔ ∃ j, r.lookup name = some j ∧ decode j = .ok a := by
  rw [Record.get]
  cases r.lookup name with
  | none => simp
  | some j => simp

/-- What is got from a record that may lack a field is decoded where the field is there. -/
theorem get?_of_lookup {α : Type} {r : Record} {name : String} {decode : Decoder α} {j : Json} {a : α}
    (found : r.lookup name = some j) (read : decode j = .ok a) :
    r.get? name decode = .ok (some a) := by
  simp only [Record.get?, found, read, Except.map]

theorem get?_eq_some {α : Type} {r : Record} {name : String} {decode : Decoder α} {a : α}
    (h : r.get? name decode = .ok (some a)) : ∃ j, r.lookup name = some j ∧ decode j = .ok a := by
  rw [Record.get?] at h
  cases hfound : r.lookup name with
  | none =>
    rw [hfound] at h
    cases h
  | some j =>
    rw [hfound] at h
    rcases map_eq_ok.1 h with ⟨b, hb, heq⟩
    cases heq
    exact ⟨j, rfl, hb⟩

theorem getOption_of_lookup {α : Type} {r : Record} {name : String} {decode : Decoder α} {j : Json}
    {o : Option α} (found : r.lookup name = some j) (read : nullable decode j = .ok o) :
    r.getOption name decode = .ok o := by
  rw [Record.getOption, found]
  exact read

theorem nullable_eq_some {α : Type} {decode : Decoder α} {j : Json} {a : α}
    (h : nullable decode j = .ok (some a)) : decode j = .ok a := by
  cases j with
  | null => cases h
  | _ =>
    rcases map_eq_ok.1 h with ⟨a', hread, hsome⟩
    rw [hread, Option.some.inj hsome]

/-- What is got from a field that may be missing or null was decoded, if there is anything. -/
theorem getOption_eq_some {α : Type} {r : Record} {name : String} {decode : Decoder α} {a : α}
    (h : r.getOption name decode = .ok (some a)) : ∃ j, r.lookup name = some j ∧ decode j = .ok a := by
  rw [Record.getOption] at h
  cases hfound : r.lookup name with
  | none =>
    rw [hfound] at h
    cases h
  | some j =>
    rw [hfound] at h
    exact ⟨j, rfl, nullable_eq_some h⟩

/-! ## Sequences -/

theorem decodeItems_eq_ok {α : Type} {decode : Decoder α} {index : Nat} {items : List Json}
    {l : List α} : decodeItems decode index items = .ok l ↔ items.map decode = l.map .ok := by
  have hplace (item : Json) (index : Nat) (a : α) :
      (decode item).mapError (DecodeError.within index) = .ok a ↔ decode item = .ok a := by
    cases decode item with
    | error e => simp [Except.mapError]
    | ok a' => simp [Except.mapError]
  induction items generalizing index l with
  | nil =>
    cases l with
    | nil => simp [decodeItems]
    | cons a others => simp [decodeItems]
  | cons item rest ih =>
    simp only [decodeItems, bind_eq_ok, pure_eq_ok, hplace, ih]
    cases l with
    | nil => simp
    | cons a others => simp

theorem sequence_eq_ok {α : Type} {decode : Decoder α} {j : Json} {l : List α} :
    sequence decode j = .ok l ↔ ∃ items, j = .arr items ∧ items.map decode = l.map .ok := by
  cases j with
  | arr items => simp [sequence, decodeItems_eq_ok]
  | null | bool b | int n | float x | str s | obj members => simp [sequence]

/-! ## Objects as records -/

/-- Whether a member of an object is one of a record: a field goes by its name, and takes its value. -/
def Fills (fields : List Field) (m : String × Json) : Prop :=
  ∃ f, fields.find? (·.goesBy m.1) = some f ∧ f.name = m.1 ∧ f.check m.2 = .ok ()

theorem fills_of_find {α : Type} {fields : List Field} {f : Field} {name : String} {decode : Decoder α}
    {j : Json} {a : α} (own : fields.find? (·.goesBy name) = some f) (named : f.name = name)
    (checks : f.check = fun j => (decode j).map fun _ => ()) (read : decode j = .ok a) :
    Fills fields (name, j) := by
  refine ⟨f, own, named, ?_⟩
  simp only [checks, read, Except.map]

theorem fills_field {α : Type} {fields : List Field} {name : String} {decode : Decoder α} {j : Json}
    {a : α} (own : fields.find? (·.goesBy name) = some (field name decode))
    (read : decode j = .ok a) : Fills fields (name, j) :=
  fills_of_find own rfl rfl read

theorem lookup_eq_none {r : Record} {name : String} :
    r.lookup name = none ↔ name ∉ r.map (·.1) := by
  rw [List.lookup_eq_none_iff]
  constructor
  · intro h hmem
    rcases List.mem_map.1 hmem with ⟨m, hm, rfl⟩
    have hne := h m hm
    simp at hne
  · intro h m hm
    simp only [bne_iff_ne, ne_eq]
    rintro rfl
    exact h (List.mem_map_of_mem hm)

theorem gatherMembers_eq {fields : List Field} {found : Record} {index : Nat}
    {members : List (String × Json)} (fill : ∀ m ∈ members, Fills fields m)
    (distinct : ((found ++ members).map (·.1)).Nodup) :
    gatherMembers fields found index members = .ok (found ++ members) := by
  induction members generalizing found index with
  | nil => rw [gatherMembers, List.append_nil]
  | cons m rest ih =>
    rcases m with ⟨name, value⟩
    rcases fill (name, value) List.mem_cons_self with ⟨f, hfield, rfl, hcheck⟩
    have hnew : found.lookup f.name = none := by
      rw [List.map_append, List.nodup_append] at distinct
      refine lookup_eq_none.2 ?_
      intro hmem
      exact distinct.2.2 f.name hmem f.name List.mem_cons_self rfl
    have hrest : gatherMembers fields (found ++ [(f.name, value)]) (index + 1) rest =
        .ok (found ++ [(f.name, value)] ++ rest) := by
      refine ih (fun m hm => fill m (List.mem_cons_of_mem _ hm)) ?_
      rw [List.append_assoc]
      exact distinct
    simp [gatherMembers, hfield, hnew, hcheck, hrest]

/-- An object each of whose members is one of the record, none twice and none missing, is read as the
record of its members. -/
theorem record_obj {type : String} {fields : List Field} {members : List (String × Json)}
    (fill : ∀ m ∈ members, Fills fields m) (distinct : (members.map (·.1)).Nodup)
    (complete : ∀ f ∈ fields, f.required = true → f.name ∈ members.map (·.1)) :
    record type fields (.obj members) = .ok members := by
  have hgathered : gatherMembers fields [] 0 members = .ok members :=
    gatherMembers_eq fill distinct
  have hmissing : firstMissing? fields members = none := by
    rw [firstMissing?, Option.map_eq_none_iff, List.find?_eq_none]
    intro f hf hlacking
    rw [Bool.and_eq_true, Option.isNone_iff_eq_none, lookup_eq_none] at hlacking
    exact hlacking.2 (complete f hf hlacking.1)
  rw [record, hgathered]
  simp only [bind, Except.bind, hmissing]
  rfl

/-! ## The order of members -/

/-- Whether two objects have the same members, in one order or another. -/
inductive Reordered : Json → Json → Prop where
  | obj {members given : List (String × Json)} (same : given.Perm members) :
      Reordered (.obj members) (.obj given)

theorem Reordered.refl (members : List (String × Json)) : Reordered (.obj members) (.obj members) :=
  .obj (.refl members)

theorem lookup_of_mem {r : Record} (distinct : (r.map (·.1)).Nodup) {name : String} {j : Json}
    (h : (name, j) ∈ r) : r.lookup name = some j := by
  rcases List.append_of_mem h with ⟨before, after, rfl⟩
  refine List.lookup_eq_some_iff.2 ⟨before, after, rfl, ?_⟩
  intro m hm
  rw [List.map_append, List.nodup_append] at distinct
  have hne : m.1 ≠ name := distinct.2.2 m.1 (List.mem_map_of_mem hm) name List.mem_cons_self
  simpa using hne.symm

/-- Members with different names are looked up alike in whatever order they stand. -/
theorem lookup_eq_of_perm {members given : Record} (same : given.Perm members)
    (distinct : (members.map (·.1)).Nodup) (name : String) :
    given.lookup name = members.lookup name := by
  have hdistinct : (given.map (·.1)).Nodup := (same.map (·.1)).nodup_iff.2 distinct
  cases hfound : members.lookup name with
  | none =>
    rw [lookup_eq_none] at hfound ⊢
    exact fun hmem => hfound ((same.map (·.1)).mem_iff.1 hmem)
  | some j => exact lookup_of_mem hdistinct (same.mem_iff.2 (mem_of_lookup hfound))

/-- An object is read as a record in whatever order its members stand, and the record gives the same. -/
theorem record_obj_of_perm {type : String} {fields : List Field}
    {members given : List (String × Json)} (same : given.Perm members)
    (fill : ∀ m ∈ members, Fills fields m) (distinct : (members.map (·.1)).Nodup)
    (complete : ∀ f ∈ fields, f.required = true → f.name ∈ members.map (·.1)) :
    ∃ r, record type fields (.obj given) = .ok r ∧ ∀ name, r.lookup name = members.lookup name := by
  refine ⟨given, record_obj ?_ ?_ ?_, lookup_eq_of_perm same distinct⟩
  · exact fun m hm => fill m (same.mem_iff.1 hm)
  · exact (same.map (·.1)).nodup_iff.2 distinct
  · exact fun f hf hrequired => (same.map (·.1)).mem_iff.2 (complete f hf hrequired)

end Json
end EventRewards
