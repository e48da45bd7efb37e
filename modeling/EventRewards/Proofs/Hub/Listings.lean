import EventRewards.Proofs.Hub.Runs
import EventRewards.Proofs.Hub.Sorting
import Mathlib.Data.Prod.Lex
import Mathlib.Data.String.Basic

/-!
# Listings of the hub

Each listing has a key in which the id of the document comes last: definitions and events are listed by
an instant and the id, requests by the instant turned round and the id.  As documents of one sort have
ids of their own, the keys tell all of them apart, and every listing is the one list of what was asked
for that is strictly in the order of the keys.  All else that is to be said of listings follows from
this: the order of the store does not show, and criteria narrow a listing and do nothing more to it.
-/

namespace EventRewards

/-! ## Keys -/

/-- Definitions are listed by the time of creation, then by id. -/
def Definition.listingKey (d : Definition) : Instant ×ₗ String :=
  toLex (d.createdAt, d.id)

/-- Events are listed by their start, then by id. -/
def Event.listingKey (e : Event) : Instant ×ₗ String :=
  toLex (e.startedAt, e.id)

/-- Requests are listed by the time of creation, the latest first, then by id. -/
def RewardRequest.listingKey (r : RewardRequest) : Instantᵒᵈ ×ₗ String :=
  toLex (OrderDual.toDual r.createdAt, r.id)

theorem precedes_iff {s t : Instant} {a b : String} :
    precedes s t a b = true ↔ toLex (s, a) < toLex (t, b) := by
  have hsame : s.rank = t.rank ↔ s = t := ⟨Instant.rank_injective, congrArg Instant.rank⟩
  simp only [precedes, Prod.Lex.toLex_lt_toLex, Bool.or_eq_true, Bool.and_eq_true,
    decide_eq_true_eq, hsame]

theorem Definition.before_iff (a b : Definition) :
    a.before b = true ↔ a.listingKey < b.listingKey :=
  precedes_iff

theorem Event.before_iff (a b : Event) : a.before b = true ↔ a.listingKey < b.listingKey :=
  precedes_iff

theorem RewardRequest.before_iff (a b : RewardRequest) :
    a.before b = true ↔ a.listingKey < b.listingKey := by
  have hsame : a.createdAt.rank = b.createdAt.rank ↔ a.createdAt = b.createdAt :=
    ⟨Instant.rank_injective, congrArg Instant.rank⟩
  simp only [RewardRequest.before, listingKey, Prod.Lex.toLex_lt_toLex, Bool.or_eq_true,
    Bool.and_eq_true, decide_eq_true_eq, hsame, OrderDual.toDual_lt_toDual, OrderDual.toDual_inj]

/-- Documents with ids of their own have keys of their own. -/
theorem nodup_keys {α τ : Type} {id : α → String} {key : α → τ ×ₗ String} {docs : List α}
    (last : ∀ a, (ofLex (key a)).2 = id a) (distinct : (docs.map id).Nodup) :
    (docs.map key).Nodup := by
  have hids : (docs.map key).map (fun k => (ofLex k).2) = docs.map id := by
    rw [List.map_map]
    exact List.map_congr_left fun a _ => last a
  exact List.Nodup.of_map _ (hids ▸ distinct)

/-! ## Criteria -/

/-- A criterion that is not given asks nothing. -/
theorem forall_of_none {β : Type} {P : β → Prop} : ∀ b, (none : Option β) = some b → P b := by
  intro b h
  cases h

/-- What is asked of a definition: that its display name holds a text, if one is given. -/
def Definition.IsAskedFor (text : Option String) (d : Definition) : Prop :=
  ∀ t, text = some t → Text.containsFolded t d.displayName = true

namespace EventQuery

/-- What a query asks of an event: to meet each criterion that is given. -/
structure Asks (q : EventQuery) (e : EventVersion) : Prop where
  name : ∀ text, q.name = some text → Text.containsFolded text e.name = true
  status : ∀ status, q.status = some status → e.status = status
  startedAt : ∀ bound, q.startedAt = some bound → bound ≤ e.startedAt
  endedAt : ∀ bound, q.endedAt = some bound → e.endedAt ≤ bound

theorem admits_iff {q : EventQuery} {e : EventVersion} : q.admits e = true ↔ q.Asks e := by
  simp only [admits, Bool.and_eq_true, Option.all_eq_true, decide_eq_true_eq]
  constructor
  · rintro ⟨⟨⟨hstart, hend⟩, hstatus⟩, hname⟩
    exact ⟨hname, hstatus, hstart, hend⟩
  · intro h
    exact ⟨⟨⟨h.startedAt, h.endedAt⟩, h.status⟩, h.name⟩

/-- The criteria of a query, each as a query of its own. -/
def criteria (q : EventQuery) : List EventQuery :=
  [{ everything with name := q.name }, { everything with status := q.status },
    { everything with startedAt := q.startedAt }, { everything with endedAt := q.endedAt }]

/-- Criteria given together ask for what all of them ask for. -/
theorem asks_iff_criteria {q : EventQuery} {e : EventVersion} :
    q.Asks e ↔ ∀ c ∈ q.criteria, c.Asks e := by
  simp only [criteria, everything, List.forall_mem_cons, List.not_mem_nil, false_imp_iff,
    implies_true, and_true]
  constructor
  · intro h
    exact ⟨⟨h.name, forall_of_none, forall_of_none, forall_of_none⟩,
      ⟨forall_of_none, h.status, forall_of_none, forall_of_none⟩,
      ⟨forall_of_none, forall_of_none, h.startedAt, forall_of_none⟩,
      ⟨forall_of_none, forall_of_none, forall_of_none, h.endedAt⟩⟩
  · rintro ⟨hname, hstatus, hstart, hend⟩
    exact ⟨hname.name, hstatus.status, hstart.startedAt, hend.endedAt⟩

/-- Whether both bounds are given, and not in order. -/
def Crossed (q : EventQuery) : Prop :=
  ∃ start finish, q.startedAt = some start ∧ q.endedAt = some finish ∧ finish ≤ start

theorem not_crossed_of_mem_criteria {q c : EventQuery} (hc : c ∈ q.criteria) : ¬c.Crossed := by
  rintro ⟨start, finish, hstart, hfinish, _⟩
  simp only [criteria, everything, List.mem_cons, List.not_mem_nil, or_false] at hc
  -- no criterion gives both bounds
  rcases hc with rfl | rfl | rfl | rfl
  · cases hstart
  · cases hstart
  · cases hfinish
  · cases hstart

end EventQuery

namespace RequestQuery

/-- What a query asks of a request: to meet each criterion that is given. -/
structure Asks (q : RequestQuery) (r : RewardRequest) : Prop where
  eventId : ∀ id, q.eventId = some id → r.eventId = id
  userId : ∀ id, q.userId = some id → r.userId = id
  status : ∀ status, q.status = some status → r.status = status

theorem admits_iff {q : RequestQuery} {r : RewardRequest} : q.admits r = true ↔ q.Asks r := by
  simp only [admits, Bool.and_eq_true, Option.all_eq_true, decide_eq_true_eq, beq_iff_eq]
  constructor
  · rintro ⟨⟨hevent, huser⟩, hstatus⟩
    exact ⟨hevent, huser, hstatus⟩
  · intro h
    exact ⟨⟨h.eventId, h.userId⟩, h.status⟩

/-- The criteria of a query, each as a query of its own. -/
def criteria (q : RequestQuery) : List RequestQuery :=
  [{ everything with eventId := q.eventId }, { everything with userId := q.userId },
    { everything with status := q.status }]

theorem asks_iff_criteria {q : RequestQuery} {r : RewardRequest} :
    q.Asks r ↔ ∀ c ∈ q.criteria, c.Asks r := by
  simp only [criteria, everything, List.forall_mem_cons, List.not_mem_nil, false_imp_iff,
    implies_true, and_true]
  constructor
  · intro h
    exact ⟨⟨h.eventId, forall_of_none, forall_of_none⟩,
      ⟨forall_of_none, h.userId, forall_of_none⟩, ⟨forall_of_none, forall_of_none, h.status⟩⟩
  · rintro ⟨hevent, huser, hstatus⟩
    exact ⟨hevent.eventId, huser.userId, hstatus.status⟩

end RequestQuery

/-! ## Stores -/

namespace Store

variable {s : Store}

theorem isListing_listDefinitions (distinct : (s.definitions.map (·.id)).Nodup)
    (text : Option String) :
    IsListing Definition.listingKey s.definitions (Definition.IsAskedFor text)
      (s.listDefinitions text) := by
  refine IsListing.of_sortedBy Definition.before_iff (nodup_keys (fun _ => rfl) distinct) ?_
  intro d
  rw [Option.all_eq_true, Definition.IsAskedFor]

theorem isListing_listRequests (distinct : (s.requests.map (·.id)).Nodup) (q : RequestQuery) :
    IsListing RewardRequest.listingKey s.requests q.Asks (s.listRequests q) :=
  IsListing.of_sortedBy RewardRequest.before_iff (nodup_keys (fun _ => rfl) distinct) fun _ =>
    RequestQuery.admits_iff

/-- Crossed bounds are refused.  With others a listing is answered. -/
theorem listEvents_cases (distinct : (s.events.map (·.id)).Nodup) (q : EventQuery) :
    q.Crossed ∧ s.listEvents q = .error .badSchedule ∨
    ¬q.Crossed ∧ ∃ es, s.listEvents q = .ok es ∧
      IsListing Event.listingKey s.events (fun e => q.Asks e.toEventVersion) es := by
  have hlisting : IsListing Event.listingKey s.events (fun e => q.Asks e.toEventVersion)
      (sortedBy Event.before (s.events.filter fun e => q.admits e.toEventVersion)) :=
    IsListing.of_sortedBy Event.before_iff (nodup_keys (fun _ => rfl) distinct) fun _ =>
      EventQuery.admits_iff
  rw [listEvents]
  cases hstart : q.startedAt with
  | none =>
    refine .inr ⟨?_, _, rfl, hlisting⟩
    rintro ⟨start, _, h, _⟩
    simp [hstart] at h
  | some start =>
    cases hfinish : q.endedAt with
    | none =>
      refine .inr ⟨?_, _, rfl, hlisting⟩
      rintro ⟨_, finish, _, h, _⟩
      simp [hfinish] at h
    | some finish =>
      have hcrossed : q.Crossed ↔ finish ≤ start := by
        simp [EventQuery.Crossed, hstart, hfinish]
      by_cases h : finish ≤ start
      · exact .inl ⟨hcrossed.2 h, by simp [h]⟩
      · exact .inr ⟨fun hc => h (hcrossed.1 hc), _, by simp [h], hlisting⟩

theorem isListing_of_listEvents (distinct : (s.events.map (·.id)).Nodup) {q : EventQuery}
    {es : List Event} (answered : s.listEvents q = .ok es) :
    IsListing Event.listingKey s.events (fun e => q.Asks e.toEventVersion) es := by
  rcases listEvents_cases distinct q with ⟨_, hrefused⟩ | ⟨_, es', hanswered, hlisting⟩
  · rw [answered] at hrefused
    cases hrefused
  · rw [answered] at hanswered
    cases hanswered
    exact hlisting

theorem exists_listEvents (distinct : (s.events.map (·.id)).Nodup) {q : EventQuery}
    (uncrossed : ¬q.Crossed) : ∃ es, s.listEvents q = .ok es := by
  rcases listEvents_cases distinct q with ⟨hcrossed, _⟩ | ⟨_, es, hanswered, _⟩
  · exact absurd hcrossed uncrossed
  · exact ⟨es, hanswered⟩

/-! ### Narrowing -/

theorem listDefinitions_eq_filter (distinct : (s.definitions.map (·.id)).Nodup)
    (text : Option String) :
    s.listDefinitions text = (s.listDefinitions none).filter fun d =>
      text.all fun t => Text.containsFolded t d.displayName := by
  refine (isListing_listDefinitions distinct text).unique
    ((isListing_listDefinitions distinct none).filter _) ?_
  intro d
  simp [Definition.IsAskedFor, Option.all_eq_true]

theorem listRequests_eq_filter (distinct : (s.requests.map (·.id)).Nodup) (q : RequestQuery) :
    s.listRequests q = (s.listRequests .everything).filter q.admits := by
  refine (isListing_listRequests distinct q).unique
    ((isListing_listRequests distinct .everything).filter _) ?_
  intro r
  have hall : RequestQuery.everything.Asks r := ⟨forall_of_none, forall_of_none, forall_of_none⟩
  simp only [RequestQuery.admits_iff, hall, true_and]

theorem listEvents_eq_filter (distinct : (s.events.map (·.id)).Nodup) {q : EventQuery}
    {all es : List Event} (unfiltered : s.listEvents .everything = .ok all)
    (answered : s.listEvents q = .ok es) :
    es = all.filter fun e => q.admits e.toEventVersion := by
  refine (isListing_of_listEvents distinct answered).unique
    ((isListing_of_listEvents distinct unfiltered).filter _) ?_
  intro e
  have hall : EventQuery.everything.Asks e.toEventVersion :=
    ⟨forall_of_none, forall_of_none, forall_of_none, forall_of_none⟩
  simp only [EventQuery.admits_iff, hall, true_and]

/-- What is listed for several criteria is what is listed for each of them. -/
theorem mem_listRequests_iff_criteria (distinct : (s.requests.map (·.id)).Nodup)
    {q : RequestQuery} {r : RewardRequest} :
    r ∈ s.listRequests q ↔ ∀ c ∈ q.criteria, r ∈ s.listRequests c := by
  have hlisted (c : RequestQuery) : r ∈ s.listRequests c ↔ r ∈ s.requests ∧ c.Asks r :=
    (isListing_listRequests distinct c).mem_iff r
  simp only [hlisted, RequestQuery.asks_iff_criteria (q := q)]
  constructor
  · intro h c hc
    exact ⟨h.1, h.2 c hc⟩
  · intro h
    exact ⟨(h _ List.mem_cons_self).1, fun c hc => (h c hc).2⟩

theorem mem_listEvents_iff_criteria (distinct : (s.events.map (·.id)).Nodup) {q : EventQuery}
    {es : List Event} (answered : s.listEvents q = .ok es) {e : Event} :
    e ∈ es ↔ ∀ c ∈ q.criteria, ∃ cs, s.listEvents c = .ok cs ∧ e ∈ cs := by
  -- a criterion alone is never refused
  have hlisted : ∀ c ∈ q.criteria, (∃ cs, s.listEvents c = .ok cs ∧ e ∈ cs) ↔
      e ∈ s.events ∧ c.Asks e.toEventVersion := by
    intro c hc
    rcases exists_listEvents distinct (EventQuery.not_crossed_of_mem_criteria hc) with ⟨cs, hcs⟩
    have hmem := (isListing_of_listEvents distinct hcs).mem_iff e
    simp [hcs, hmem]
  rw [(isListing_of_listEvents distinct answered).mem_iff, EventQuery.asks_iff_criteria]
  constructor
  · intro h c hc
    exact (hlisted c hc).2 ⟨h.1, h.2 c hc⟩
  · intro h
    exact ⟨((hlisted _ List.mem_cons_self).1 (h _ List.mem_cons_self)).1,
      fun c hc => ((hlisted c hc).1 (h c hc)).2⟩

/-! ### Counting -/

/-- The count of a status, which is left out where it is zero, is the length of the listing. -/
theorem mem_countByStatus_iff {status : EventStatus} {es : List Event}
    (answered : s.listEvents { EventQuery.everything with status := some status } = .ok es)
    {n : Nat} : (status, n) ∈ s.countByStatus ↔ n = es.length ∧ 0 < n := by
  have hlength : es.length = s.events.countP fun e => e.status = status := by
    have hes : sortedBy Event.before (s.events.filter fun e =>
        EventQuery.admits { EventQuery.everything with status := some status } e.toEventVersion) =
        es := by
      simpa [listEvents, EventQuery.everything] using answered
    rw [← hes, (sortedBy_perm Event.before _).length_eq, List.countP_eq_length_filter]
    simp [EventQuery.admits, EventQuery.everything]
  have hknown : status ∈ EventStatus.all := by
    cases status with
    | active => decide
    | inactive => decide
  rw [hlength]
  simp only [countByStatus, List.mem_filter, List.mem_map, Prod.mk.injEq, decide_eq_true_eq]
  constructor
  · rintro ⟨⟨_, _, rfl, rfl⟩, hpos⟩
    exact ⟨rfl, hpos⟩
  · rintro ⟨rfl, hpos⟩
    exact ⟨⟨status, hknown, rfl, rfl⟩, hpos⟩

/-! ### The order of the store -/

/-- Whether a store holds the documents of another, each sort of them in any order. -/
structure Reordered (s s' : Store) : Prop where
  definitions : s'.definitions.Perm s.definitions
  events : s'.events.Perm s.events
  requests : s'.requests.Perm s.requests

section Reordered

variable {s' : Store} (reordered : s.Reordered s')
include reordered

theorem Reordered.listDefinitions (distinct : (s.definitions.map (·.id)).Nodup)
    (text : Option String) : s'.listDefinitions text = s.listDefinitions text := by
  have hdistinct := (reordered.definitions.map (·.id)).nodup_iff.2 distinct
  refine (isListing_listDefinitions hdistinct text).unique
    (isListing_listDefinitions distinct text) ?_
  intro d
  rw [reordered.definitions.mem_iff]

theorem Reordered.listRequests (distinct : (s.requests.map (·.id)).Nodup) (q : RequestQuery) :
    s'.listRequests q = s.listRequests q := by
  have hdistinct := (reordered.requests.map (·.id)).nodup_iff.2 distinct
  refine (isListing_listRequests hdistinct q).unique (isListing_listRequests distinct q) ?_
  intro r
  rw [reordered.requests.mem_iff]

theorem Reordered.listEvents (distinct : (s.events.map (·.id)).Nodup) (q : EventQuery) :
    s'.listEvents q = s.listEvents q := by
  have hdistinct := (reordered.events.map (·.id)).nodup_iff.2 distinct
  -- whether bounds are crossed does not depend on the store
  rcases listEvents_cases distinct q with ⟨hcrossed, hrefused⟩ | ⟨huncrossed, es, hes, hlisting⟩
  · rcases listEvents_cases hdistinct q with ⟨_, hrefused'⟩ | ⟨huncrossed, _⟩
    · rw [hrefused, hrefused']
    · exact absurd hcrossed huncrossed
  · rcases exists_listEvents hdistinct huncrossed with ⟨es', hes'⟩
    have hsame : es' = es := by
      refine (isListing_of_listEvents hdistinct hes').unique hlisting ?_
      intro e
      rw [reordered.events.mem_iff]
    rw [hes, hes', hsame]

end Reordered

end Store

/-! ## Whatever the hub has been through -/

/-- After any run the listings are canonical.  A listing holds the stored documents that meet the
criteria given, each once and strictly in the order of its keys.  It is the listing of all documents
with the others filtered out, and what is listed for several criteria is what is listed for each of
them.  Only events are refused a listing, and only for bounds that are not in order.  The order in which
the store holds its documents does not show.  The events counted for a status are those listed for
it. -/
theorem listings_are_canonical {settings : HubSettings} {steps : List Step}
    (distinct : DistinctDraws settings steps) :
    let s := Store.empty.run settings steps
    (∀ text,
      IsListing Definition.listingKey s.definitions (Definition.IsAskedFor text)
        (s.listDefinitions text) ∧
      s.listDefinitions text = (s.listDefinitions none).filter fun d =>
        text.all fun t => Text.containsFolded t d.displayName) ∧
    (∀ q : EventQuery,
      q.Crossed ∧ s.listEvents q = .error .badSchedule ∨
      ¬q.Crossed ∧ ∃ all es, s.listEvents .everything = .ok all ∧ s.listEvents q = .ok es ∧
        IsListing Event.listingKey s.events (fun e => q.Asks e.toEventVersion) es ∧
        (es = all.filter fun e => q.admits e.toEventVersion) ∧
        ∀ e, e ∈ es ↔ ∀ c ∈ q.criteria, ∃ cs, s.listEvents c = .ok cs ∧ e ∈ cs) ∧
    (∀ q : RequestQuery,
      IsListing RewardRequest.listingKey s.requests q.Asks (s.listRequests q) ∧
      s.listRequests q = (s.listRequests .everything).filter q.admits ∧
      ∀ r, r ∈ s.listRequests q ↔ ∀ c ∈ q.criteria, r ∈ s.listRequests c) ∧
    (∀ s', s.Reordered s' →
      (∀ text, s'.listDefinitions text = s.listDefinitions text) ∧
      (∀ q, s'.listEvents q = s.listEvents q) ∧ ∀ q, s'.listRequests q = s.listRequests q) ∧
    ∀ status, ∃ es,
      s.listEvents { EventQuery.everything with status := some status } = .ok es ∧
      ∀ n, (status, n) ∈ s.countByStatus ↔ n = es.length ∧ 0 < n := by
  intro s
  have hdefinitions : (s.definitions.map (·.id)).Nodup := distinct.definitions_distinct
  have hevents : (s.events.map (·.id)).Nodup := distinct.events_distinct
  have hrequests : (s.requests.map (·.id)).Nodup := distinct.requests_distinct
  have hall : ¬EventQuery.everything.Crossed := by
    rintro ⟨_, _, hstart, _⟩
    cases hstart
  refine ⟨?_, ?_, ?_, ?_, ?_⟩
  · intro text
    exact ⟨Store.isListing_listDefinitions hdefinitions text,
      Store.listDefinitions_eq_filter hdefinitions text⟩
  · intro q
    rcases Store.listEvents_cases hevents q with hrefused | ⟨huncrossed, es, hes, hlisting⟩
    · exact .inl hrefused
    · rcases Store.exists_listEvents hevents hall with ⟨all, hunfiltered⟩
      exact .inr ⟨huncrossed, all, es, hunfiltered, hes, hlisting,
        Store.listEvents_eq_filter hevents hunfiltered hes,
        fun _ => Store.mem_listEvents_iff_criteria hevents hes⟩
  · intro q
    exact ⟨Store.isListing_listRequests hrequests q, Store.listRequests_eq_filter hrequests q,
      fun _ => Store.mem_listRequests_iff_criteria hrequests⟩
  · intro s' hreordered
    exact ⟨hreordered.listDefinitions hdefinitions, hreordered.listEvents hevents,
      hreordered.listRequests hrequests⟩
  · intro status
    have huncrossed : ¬EventQuery.Crossed { EventQuery.everything with status := some status } := by
      rintro ⟨_, _, hstart, _⟩
      cases hstart
    rcases Store.exists_listEvents hevents huncrossed with ⟨es, hes⟩
    exact ⟨es, hes, fun _ => Store.mem_countByStatus_iff hes⟩

/-- Bob's request, which is the later one, is listed before Ann's, also by a store that holds the two
the other way round. -/
theorem listings_are_canonical_of_sample :
    let s := Store.empty.run Sample.settings Sample.steps
    s.requests.map (·.id) = ["r1", "r3"] ∧
    (s.listRequests .everything).map (·.id) = ["r3", "r1"] ∧
    ({ s with requests := s.requests.reverse } : Store).listRequests .everything =
      s.listRequests .everything := by
  intro s
  have hreordered : s.Reordered { s with requests := s.requests.reverse } :=
    ⟨.refl _, .refl _, List.reverse_perm _⟩
  have hcanonical := (listings_are_canonical Sample.steps_distinct).2.2.2.1 _ hreordered
  refine ⟨?_, ?_, hcanonical.2.2 .everything⟩
  · decide +kernel
  · decide +kernel

end EventRewards
