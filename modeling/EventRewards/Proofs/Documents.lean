import EventRewards.Log
import EventRewards.Reward
import EventRewards.Proofs.Calendar.Texts
import EventRewards.Proofs.Condition.Documents
import EventRewards.Proofs.Instants
import EventRewards.Proofs.Json.Canonical

/-!
# Documents of definitions, rewards and logs

What is read from a document may get an id or a time that the document does not give.  Once written,
its own document gives both, and everything else as it was read, so that reading it again needs
neither the clock nor an id.

Documents are JSON values here.  Reading one from a text rounds the numbers in it.
-/

namespace EventRewards

/-! ## Parts of documents -/

namespace Instant

theorem decode_toJson {t : Instant} (ends : t.LeapEndsMinute) : decode t.toJson = .ok t := by
  simp only [toJson, decode, ofRelaxed?_toText ends]

theorem leapEndsMinute_of_decode {j : Json} {t : Instant} (h : decode j = .ok t) :
    t.LeapEndsMinute := by
  cases j with
  | str s =>
    simp only [decode] at h
    split at h
    · next hread =>
      cases h
      exact leapEndsMinute_of_ofRelaxed? hread
    · cases h
  | null | bool b | int n | float x | arr items | obj members => cases h

/-- A time that is read or, where there is none, taken from the clock can be written. -/
theorem leapEndsMinute_getD {r : Json.Record} {name : String} {now : Instant} {t? : Option Instant}
    (clock : now.LeapEndsMinute) (h : r.get? name decode = .ok t?) : (t?.getD now).LeapEndsMinute := by
  cases t? with
  | none => exact clock
  | some t =>
    rcases Json.get?_eq_some h with ⟨part, _, hread⟩
    exact leapEndsMinute_of_decode hread

end Instant

theorem ValueType.decode_toJson (t : ValueType) : decode t.toJson = .ok t := by
  cases t with
  | _ => rfl

theorem RewardKind.decode_name (k : RewardKind) : decode (.str k.name) = .ok k := by
  cases k with
  | _ => rfl

theorem Json.nullable_text (s? : Option String) :
    nullable asText ((s?.map Json.str).getD .null) = .ok s? := by
  cases s? with
  | none => rfl
  | some s => rfl

/-! ## Definitions -/

namespace Definition

theorem exists_record {d : Definition} (ends : d.createdAt.LeapEndsMinute) {form : Json}
    (h : d.toJson.Reordered form) :
    ∃ r, Json.record "ConditionDefinition" fields form = .ok r ∧
      ∀ name, r.lookup name = List.lookup name [("id", .str d.id), ("fieldName", .str d.fieldName),
        ("displayName", .str d.displayName), ("type", d.valueType.toJson),
        ("createdAt", d.createdAt.toJson), ("createdBy", (d.createdBy.map Json.str).getD .null)] := by
  cases h with
  | obj same =>
    refine Json.record_obj_of_perm same ?_ (by simp) ?_
    · simp only [List.forall_mem_cons, List.not_mem_nil, false_imp_iff, implies_true, and_true]
      exact ⟨Json.fills_field rfl rfl, Json.fills_field rfl rfl, Json.fills_field rfl rfl,
        Json.fills_of_find rfl rfl rfl d.valueType.decode_toJson,
        Json.fills_of_find rfl rfl rfl (Instant.decode_toJson ends),
        Json.fills_of_find rfl rfl rfl (Json.nullable_text d.createdBy)⟩
    · simp [fields, Json.field, Json.optionalField, Json.Field.orNamed]

/-- A definition is read from its document, whatever the clock shows. -/
theorem decode_of_reordered {d : Definition} (ends : d.createdAt.LeapEndsMinute) {form : Json}
    (h : d.toJson.Reordered form) (later : Instant) : decode later form = .ok d := by
  rcases exists_record ends h with ⟨r, hrecord, hlookup⟩
  have htype := d.valueType.decode_toJson
  have htime := Json.get?_of_lookup (hlookup "createdAt") (Instant.decode_toJson ends)
  have hauthor := Json.getOption_of_lookup (hlookup "createdBy") (Json.nullable_text d.createdBy)
  refine bind_eq_ok.2 ⟨r, hrecord, ?_⟩
  refine bind_eq_ok.2 ⟨d.id, Json.get_eq_ok.2 ⟨_, hlookup "id", rfl⟩, ?_⟩
  refine bind_eq_ok.2 ⟨d.fieldName, Json.get_eq_ok.2 ⟨_, hlookup "fieldName", rfl⟩, ?_⟩
  refine bind_eq_ok.2 ⟨d.displayName, Json.get_eq_ok.2 ⟨_, hlookup "displayName", rfl⟩, ?_⟩
  refine bind_eq_ok.2 ⟨d.valueType, Json.get_eq_ok.2 ⟨_, hlookup "type", htype⟩, ?_⟩
  refine bind_eq_ok.2 ⟨some d.createdAt, htime, ?_⟩
  exact bind_eq_ok.2 ⟨d.createdBy, hauthor, rfl⟩

theorem leapEndsMinute_of_decode {now : Instant} (clock : now.LeapEndsMinute) {j : Json}
    {d : Definition} (h : decode now j = .ok d) : d.createdAt.LeapEndsMinute := by
  simp only [decode, bind_eq_ok, pure_eq_ok] at h
  rcases h with ⟨r, _, _, _, _, _, _, _, _, _, t?, htime, _, _, rfl⟩
  exact Instant.leapEndsMinute_getD clock htime

end Definition

/-! ## Drafts -/

namespace Draft

variable {α : Type}

/-- Whether a draft is a value with an id of its own, so that completing it draws none. -/
def Holds (d : Draft α) (a : α) : Prop :=
  ∀ (fresh : FreshIds) (drawn : Nat), completeAll fresh drawn [d] = ([a], drawn)

theorem holds_of_id (id : String) (withId : String → α) : Holds ⟨some id, withId⟩ (withId id) :=
  fun _ _ => rfl

end Draft

/-! ## Rewards -/

theorem Json.isFinite_of_asNumber {j : Json} (wellFormed : j.WellFormed) {x : Double}
    (h : asNumber j = .ok x) : x.isFinite = true := by
  cases wellFormed with
  | @int n low high =>
    have hx : Double.ofInt n = x := Except.ok.inj h
    rw [← hx]
    exact Double.ofInt_isFinite (by omega)
  | float finite =>
    cases h
    exact finite
  | null | bool | str | arr _ | obj _ => cases h

namespace Reward

theorem exists_record {reward : Reward} (finite : reward.amount.isFinite = true) {form : Json}
    (h : reward.toJson.Reordered form) :
    ∃ r, Json.record "Reward" fields form = .ok r ∧
      ∀ name, r.lookup name = List.lookup name [("id", .str reward.id), ("name", .str reward.name),
        ("type", .str reward.kind.name), ("amount", .float reward.amount)] := by
  rw [toJson, if_pos finite] at h
  cases h with
  | obj same =>
    refine Json.record_obj_of_perm same ?_ (by simp) ?_
    · simp only [List.forall_mem_cons, List.not_mem_nil, false_imp_iff, implies_true, and_true]
      exact ⟨Json.fills_of_find rfl rfl rfl (Json.asText_eq_ok.2 rfl), Json.fills_field rfl rfl,
        Json.fills_field rfl reward.kind.decode_name, Json.fills_field rfl rfl⟩
    · simp [fields, Json.field, Json.optionalField]

/-- A reward is read from its document with the id that it has. -/
theorem decode_of_reordered {reward : Reward} (finite : reward.amount.isFinite = true) {form : Json}
    (h : reward.toJson.Reordered form) :
    ∃ draft, decode form = .ok draft ∧ draft.Holds reward := by
  rcases exists_record finite h with ⟨r, hrecord, hlookup⟩
  have hid := Json.get?_of_lookup (hlookup "id") (Json.asText_eq_ok.2 rfl)
  have hkind := reward.kind.decode_name
  refine ⟨⟨some reward.id, fun id => ⟨id, reward.name, reward.kind, reward.amount⟩⟩, ?_,
    Draft.holds_of_id _ _⟩
  refine bind_eq_ok.2 ⟨r, hrecord, ?_⟩
  refine bind_eq_ok.2 ⟨some reward.id, hid, ?_⟩
  refine bind_eq_ok.2 ⟨reward.name, Json.get_eq_ok.2 ⟨_, hlookup "name", rfl⟩, ?_⟩
  refine bind_eq_ok.2 ⟨reward.kind, Json.get_eq_ok.2 ⟨_, hlookup "type", hkind⟩, ?_⟩
  exact bind_eq_ok.2 ⟨reward.amount, Json.get_eq_ok.2 ⟨_, hlookup "amount", rfl⟩, rfl⟩

/-- The amount of a reward that was read is a number that the document can hold. -/
theorem isFinite_of_decode {j : Json} (wellFormed : j.WellFormed) {draft : Draft Reward}
    (h : decode j = .ok draft) (id : String) : (draft.complete id).amount.isFinite = true := by
  simp only [decode, bind_eq_ok, pure_eq_ok, Json.get_eq_ok] at h
  rcases h with ⟨r, hrecord, _, _, _, _, _, _, amount, ⟨part, hpart, hread⟩, rfl⟩
  exact Json.isFinite_of_asNumber (wellFormed.partOf (Json.partOf_of_record hrecord hpart)) hread

/-- A reward that is given as a JSON text is read from its own document as it is. -/
theorem decode_of_read {options : Json.ReadOptions} {s : String} {j : Json}
    (text : Json.read options s = .whole j) {draft : Draft Reward} (h : decode j = .ok draft)
    (id : String) {form : Json} (same : (draft.complete id).toJson.Reordered form) :
    ∃ again, decode form = .ok again ∧ again.Holds (draft.complete id) :=
  decode_of_reordered (isFinite_of_decode (Json.read_wellFormed text) h id) same

end Reward

/-! ## Logs -/

namespace Log

/-- Logs that documents hold: the value and the time are ones that documents hold, and the metadata are
in canonical form. -/
structure Settled (l : Log) : Prop where
  value : l.value.Plain
  loggedAt : l.loggedAt.LeapEndsMinute
  metadata : ∀ members, l.metadata = some members → (Json.obj members).canonical = .obj members

/-- Metadata are read from an object as the members of its canonical form. -/
theorem decodeMetadata_eq_ok {j : Json} {members : List (String × Json)} :
    decodeMetadata j = .ok members ↔ ∃ given, j = .obj given ∧ j.canonical = .obj members := by
  cases j with
  | obj given => simp [decodeMetadata, Json.asMembers, Json.canonical, Except.map]
  | null | bool b | int n | float x | str s | arr items =>
    simp [decodeMetadata, Json.asMembers, Except.map]

/-- What was read as metadata is read from itself again. -/
theorem nullable_decodeMetadata {members : List (String × Json)}
    (h : (Json.obj members).canonical = .obj members) :
    Json.nullable decodeMetadata (.obj members) = .ok (some members) :=
  map_eq_ok.2 ⟨members, decodeMetadata_eq_ok.2 ⟨members, rfl, h⟩, rfl⟩

theorem exists_record {l : Log} (settled : l.Settled) {form : Json} (h : l.toJson.Reordered form) :
    ∃ r, Json.record "LoggedEvent" fields form = .ok r ∧
      ∀ name, r.lookup name = List.lookup name ([("id", .str l.id), ("userId", .str l.userId),
        ("fieldName", .str l.fieldName), ("value", l.value.toJson), ("loggedAt", l.loggedAt.toJson)] ++
          Json.optionalMember "metadata" (l.metadata.map .obj)) := by
  have hvalue := Literal.decode_toJson settled.value
  -- the members that every log has, and the one that is left out where there are no metadata
  have hfills : ∀ m ∈ [("id", Json.str l.id), ("userId", .str l.userId),
      ("fieldName", .str l.fieldName), ("value", l.value.toJson), ("loggedAt", l.loggedAt.toJson)],
      Json.Fills fields m := by
    simp only [List.forall_mem_cons, List.not_mem_nil, false_imp_iff, implies_true, and_true]
    exact ⟨Json.fills_of_find rfl rfl rfl (Json.asText_eq_ok.2 rfl), Json.fills_field rfl rfl,
      Json.fills_field rfl rfl, Json.fills_field rfl hvalue,
      Json.fills_of_find rfl rfl rfl (Instant.decode_toJson settled.loggedAt)⟩
  have hmetadata : ∀ m ∈ Json.optionalMember "metadata" (l.metadata.map .obj),
      Json.Fills fields m := by
    cases hmembers : l.metadata with
    | none => simp [Json.optionalMember]
    | some members =>
      have hread := nullable_decodeMetadata (settled.metadata members hmembers)
      simp only [Option.map_some, Json.optionalMember, List.mem_singleton, forall_eq]
      exact Json.fills_of_find rfl rfl rfl hread
  cases h with
  | obj same =>
    refine Json.record_obj_of_perm same ?_ ?_ ?_
    · exact List.forall_mem_append.2 ⟨hfills, hmetadata⟩
    · cases l.metadata with
      | none => simp [Json.optionalMember]
      | some members => simp [Json.optionalMember]
    · simp [fields, Json.field, Json.optionalField, Json.Field.orNamed]

/-- A log is read from its document with the id that it has, whatever the clock shows. -/
theorem decode_of_reordered {l : Log} (settled : l.Settled) {form : Json}
    (h : l.toJson.Reordered form) (later : Instant) :
    ∃ draft, decode later form = .ok draft ∧ draft.Holds l := by
  rcases exists_record settled h with ⟨r, hrecord, hlookup⟩
  have hid := Json.get?_of_lookup (hlookup "id") (Json.asText_eq_ok.2 rfl)
  have hvalue := Literal.decode_toJson settled.value
  have htime := Json.get?_of_lookup (hlookup "loggedAt") (Instant.decode_toJson settled.loggedAt)
  have hmetadata : r.getOption "metadata" decodeMetadata = .ok l.metadata := by
    have hmember := hlookup "metadata"
    rw [Json.Record.getOption, hmember]
    cases hmembers : l.metadata with
    | none => rfl
    | some members => exact nullable_decodeMetadata (settled.metadata members hmembers)
  refine ⟨⟨some l.id, fun id => ⟨id, l.userId, l.fieldName, l.value, l.loggedAt, l.metadata⟩⟩, ?_,
    Draft.holds_of_id _ _⟩
  refine bind_eq_ok.2 ⟨r, hrecord, ?_⟩
  refine bind_eq_ok.2 ⟨some l.id, hid, ?_⟩
  refine bind_eq_ok.2 ⟨l.userId, Json.get_eq_ok.2 ⟨_, hlookup "userId", rfl⟩, ?_⟩
  refine bind_eq_ok.2 ⟨l.fieldName, Json.get_eq_ok.2 ⟨_, hlookup "fieldName", rfl⟩, ?_⟩
  refine bind_eq_ok.2 ⟨l.value, Json.get_eq_ok.2 ⟨_, hlookup "value", hvalue⟩, ?_⟩
  refine bind_eq_ok.2 ⟨some l.loggedAt, htime, ?_⟩
  exact bind_eq_ok.2 ⟨l.metadata, hmetadata, rfl⟩

/-- Whatever a log is read from, it is one that documents hold. -/
theorem settled_of_decode {j : Json} (wellFormed : j.WellFormed) {now : Instant}
    (clock : now.LeapEndsMinute) {draft : Draft Log} (h : decode now j = .ok draft) (id : String) :
    (draft.complete id).Settled := by
  simp only [decode, bind_eq_ok, pure_eq_ok, Json.get_eq_ok, Literal.decode_eq_ok] at h
  rcases h with ⟨r, hrecord, _, _, _, _, _, _, value, ⟨part, hpart, hvalue⟩, t?, htime, metadata,
    hmetadata, rfl⟩
  refine ⟨Literal.plain_of_ofJson? (wellFormed.partOf (Json.partOf_of_record hrecord hpart)) hvalue,
    Instant.leapEndsMinute_getD clock htime, ?_⟩
  rintro members rfl
  rcases Json.getOption_eq_some hmetadata with ⟨part, _, hread⟩
  rcases decodeMetadata_eq_ok.1 hread with ⟨given, rfl, hcanonical⟩
  rw [← hcanonical]
  exact Json.canonical_canonical _

/-- A log that is given as a JSON text is read from its own document as it is, whatever the clock shows. -/
theorem decode_of_read {options : Json.ReadOptions} {s : String} {j : Json}
    (text : Json.read options s = .whole j) {now : Instant} (clock : now.LeapEndsMinute)
    {draft : Draft Log} (h : decode now j = .ok draft) (id : String) {form : Json}
    (same : (draft.complete id).toJson.Reordered form) (later : Instant) :
    ∃ again, decode later form = .ok again ∧ again.Holds (draft.complete id) :=
  decode_of_reordered (settled_of_decode (Json.read_wellFormed text) clock h id) same later

end Log

/-- Whatever document a definition, a reward or a log was read from, and whatever id and time it got
where the document gave none, it is read from its own document as it is, in whatever order the members
of that stand.  This takes no id, and does not depend on the clock.  The clock of the first reading shows
no leap second within a minute; the clocks of systems show none at all. -/
theorem documents_come_to_rest (now : Instant) (clock : now.LeapEndsMinute) (j : Json)
    (wellFormed : j.WellFormed) :
    (∀ d, Definition.decode now j = .ok d →
      ∀ form, d.toJson.Reordered form → ∀ later, Definition.decode later form = .ok d) ∧
    (∀ draft, Reward.decode j = .ok draft → ∀ id,
      ∀ form, (draft.complete id).toJson.Reordered form →
        ∃ again, Reward.decode form = .ok again ∧ again.Holds (draft.complete id)) ∧
    (∀ draft, Log.decode now j = .ok draft → ∀ id,
      ∀ form, (draft.complete id).toJson.Reordered form → ∀ later,
        ∃ again, Log.decode later form = .ok again ∧ again.Holds (draft.complete id)) := by
  refine ⟨?_, ?_, ?_⟩
  · intro d hd form hform later
    exact Definition.decode_of_reordered (Definition.leapEndsMinute_of_decode clock hd) hform later
  · intro draft hdraft id form hform
    exact Reward.decode_of_reordered (Reward.isFinite_of_decode wellFormed hdraft id) hform
  · intro draft hdraft id form hform later
    exact Log.decode_of_reordered (Log.settled_of_decode wellFormed clock hdraft id) hform later

namespace Sample

/-- A definition under the other name for its type, with no time of creation and a member too many. -/
def spelledDefinition : Json :=
  .obj [("displayName", .str "Level"), ("valueType", .str "number"), ("id", .str "d1"),
    ("note", .bool true), ("fieldName", .str "level")]

/-- The definition, created in the leap second when it was read. -/
def level : Definition :=
  ⟨"d1", "level", "Level", .number, leapSecond, none⟩

/-- A reward with no id, its kind given as an object and its amount as an integer. -/
def spelledReward : Json :=
  .obj [("type", .obj [("point", .null)]), ("amount", .int 100), ("name", .str "Points")]

def points (id : String) : Reward :=
  ⟨id, "Points", .point, Double.ofInt 100⟩

/-- A log with no id, at a leap second that is written with an offset, and with metadata in which the
members are out of order and one is repeated. -/
def spelledLog : Json :=
  .obj [("userId", .str "ann"), ("createdAt", .str "2017-01-01 00:59:60.5+0100"),
    ("metadata", .obj [("b", .null), ("a", .arr []), ("b", .bool true)]), ("fieldName", .str "level"),
    ("value", .arr [.int 3, .null])]

def levels (id : String) : Log :=
  ⟨id, "ann", "level", .list [.number (Double.ofInt 3), .null], leapSecond,
    some [("a", .arr []), ("b", .bool true)]⟩

theorem spelledDefinition_wellFormed : spelledDefinition.WellFormed :=
  .obj (by simpa using ⟨.str, .str, .str, .bool, .str⟩)

theorem spelledReward_wellFormed : spelledReward.WellFormed :=
  .obj (by simpa using ⟨.obj (by simpa using .null), .int (by decide) (by decide), .str⟩)

theorem spelledLog_wellFormed : spelledLog.WellFormed := by
  have hmetadata : (Json.obj [("b", .null), ("a", .arr []), ("b", .bool true)]).WellFormed :=
    .obj (by simpa using ⟨.null, .arr (by simp), .bool⟩)
  have hvalue : (Json.arr [.int 3, .null]).WellFormed :=
    .arr (by simpa using ⟨.int (by decide) (by decide), .null⟩)
  exact .obj (by simpa using ⟨.str, .str, hmetadata, .str, hvalue⟩)

theorem decode_spelledTime : Instant.decode (.str "2017-01-01 00:59:60.5+0100") = .ok leapSecond := by
  have hread : Instant.ofRelaxed? "2017-01-01 00:59:60.5+0100".toList = some leapSecond := by
    decide +kernel
  simp only [Instant.decode, hread]

theorem decode_spelledLog : Log.decode leapSecond spelledLog = .ok ⟨none, levels⟩ := by
  have hrecord : Json.record "LoggedEvent" Log.fields spelledLog =
      .ok [("userId", .str "ann"), ("loggedAt", .str "2017-01-01 00:59:60.5+0100"),
        ("metadata", .obj [("b", .null), ("a", .arr []), ("b", .bool true)]),
        ("fieldName", .str "level"), ("value", .arr [.int 3, .null])] := by
    simp [spelledLog, Json.record, Json.gatherMembers, Log.fields, Json.field, Json.optionalField,
      Json.Field.orNamed, Json.Field.goesBy, decode_spelledTime]
    rfl
  refine bind_eq_ok.2 ⟨_, hrecord, ?_⟩
  refine bind_eq_ok.2 ⟨none, rfl, ?_⟩
  refine bind_eq_ok.2 ⟨"ann", rfl, ?_⟩
  refine bind_eq_ok.2 ⟨"level", rfl, ?_⟩
  refine bind_eq_ok.2 ⟨.list [.number (Double.ofInt 3), .null], rfl, ?_⟩
  refine bind_eq_ok.2 ⟨some leapSecond, Json.get?_of_lookup rfl decode_spelledTime, ?_⟩
  exact bind_eq_ok.2 ⟨some [("a", .arr []), ("b", .bool true)], rfl, rfl⟩

end Sample

/-- Documents in unusual spellings come to rest: a definition that got its time from the clock, and a
reward and a log that got fresh ids.  They are read again at the last instant of all. -/
theorem documents_come_to_rest_once_spelled :
    Definition.decode ⊤ Sample.level.toJson = .ok Sample.level ∧
      (∃ again, Reward.decode (Sample.points "r1").toJson = .ok again ∧
        again.Holds (Sample.points "r1")) ∧
      ∃ again, Log.decode ⊤ (Sample.levels "l1").toJson = .ok again ∧
        again.Holds (Sample.levels "l1") := by
  have hclock : Sample.leapSecond.LeapEndsMinute := by decide
  have hdefinition := (documents_come_to_rest Sample.leapSecond hclock Sample.spelledDefinition
    Sample.spelledDefinition_wellFormed).1
  have hreward := (documents_come_to_rest Sample.leapSecond hclock Sample.spelledReward
    Sample.spelledReward_wellFormed).2.1
  have hlog := (documents_come_to_rest Sample.leapSecond hclock Sample.spelledLog
    Sample.spelledLog_wellFormed).2.2
  exact ⟨hdefinition Sample.level rfl _ (.refl _) ⊤,
    hreward ⟨none, Sample.points⟩ rfl "r1" _ (.refl _),
    hlog ⟨none, Sample.levels⟩ Sample.decode_spelledLog "l1" _ (.refl _) ⊤⟩

end EventRewards
