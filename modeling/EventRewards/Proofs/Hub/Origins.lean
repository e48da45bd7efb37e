import EventRewards.Proofs.Hub.EventLife
import EventRewards.Proofs.Hub.RequestLife
import EventRewards.Proofs.Hub.Validation
import Mathlib.Algebra.Order.Group.Multiset
import Mathlib.Data.Multiset.MapFold
import Mathlib.Tactic.Abel

/-!
# Where documents come from

Definitions, events and requests are made by the operations that answer them, and are never dropped.
What is stored is, document for document, what was made: later operations put new versions in the
place of events and requests, and these keep the id and the data of their creation.  Nor does anything
that a document refers to ever go missing.
-/

namespace EventRewards

/-! ## Making documents -/

/-- Whether an operation makes a definition, an event or a request. -/
def Operation.creates : Operation → Bool
  | .define _ _ | .createEvent _ _ | .request _ _ => true
  | _ => false

/-- What changes of an event leave as it was. -/
structure Event.SameOrigin (e e' : Event) : Prop where
  id : e'.id = e.id
  createdAt : e'.createdAt = e.createdAt
  createdBy : e'.createdBy = e.createdBy

namespace Answer

/-- Whether a document that was answered is another that is answered later.  Definitions never
change. -/
inductive KeptAs : Answer → Answer → Prop where
  | definition (d : Definition) : KeptAs (.definition d) (.definition d)
  | event {e e' : Event} (origin : e.SameOrigin e') : KeptAs (.event e) (.event e')
  | request {r r' : RewardRequest} (claim : r.SameClaim r') : KeptAs (.request r) (.request r')

theorem KeptAs.event_refl (e : Event) : KeptAs (.event e) (.event e) :=
  .event ⟨rfl, rfl, rfl⟩

theorem KeptAs.request_refl (r : RewardRequest) : KeptAs (.request r) (.request r) :=
  .request ⟨rfl, rfl, rfl, rfl, rfl⟩

instance : IsTrans Answer KeptAs where
  trans := by
    intro a b c hab hbc
    cases hab with
    | definition d => exact hbc
    | event h =>
      cases hbc with
      | event h' =>
        exact .event ⟨h'.id.trans h.id, h'.createdAt.trans h.createdAt,
          h'.createdBy.trans h.createdBy⟩
    | request h =>
      cases hbc with
      | request h' =>
        exact .request ⟨h'.id.trans h.id, h'.eventId.trans h.eventId, h'.userId.trans h.userId,
          h'.createdAt.trans h.createdAt, h'.logs.trans h.logs⟩

end Answer

/-- Whether a document is found under its id, as it was made or as what became of it. -/
inductive Store.Holds (s : Store) : Answer → Prop where
  | definition {d : Definition} (found : s.findDefinition d.id = .ok d) : Holds s (.definition d)
  | event {e e' : Event} (found : s.findEvent e.id = .ok e') (origin : e.SameOrigin e') :
      Holds s (.event e)
  | request {r r' : RewardRequest} (found : s.findRequest r.id = .ok r') (claim : r.SameClaim r') :
      Holds s (.request r)

namespace Step

/-- What a step that makes a document answers: one with the data that the step brings. -/
inductive Makes (step : Step) : Answer → Prop where
  | definition {user : String} {input : NewDefinition} {d : Definition}
      (asked : step.op = .define user input) (createdAt : d.createdAt = step.now)
      (createdBy : d.createdBy = some user) : Makes step (.definition d)
  | event {user : String} {input : NewEvent} {e : Event}
      (asked : step.op = .createEvent user input) (createdAt : e.createdAt = step.now)
      (createdBy : e.createdBy = user) : Makes step (.event e)
  | request {r : RewardRequest} (asked : step.op = .request r.userId r.eventId)
      (createdAt : r.createdAt = step.now) : Makes step (.request r)

/-- The document that a step makes, if it makes one. -/
def created (settings : HubSettings) (step : Step) (s : Store) : List Answer :=
  match step.outcome settings s with
  | .ok answer => if step.op.creates then [answer] else []
  | .error _ => []

end Step

namespace Store

/-- The documents made by steps performed in a row. -/
def created (settings : HubSettings) : Store → List Step → List Answer
  | _, [] => []
  | s, step :: rest => step.created settings s ++ created settings (step.after settings s) rest

/-- The documents that a store holds, logs aside. -/
def documents (s : Store) : Multiset Answer :=
  ↑(s.definitions.map Answer.definition) + ↑(s.events.map Answer.event) +
    ↑(s.requests.map Answer.request)

variable {settings : HubSettings} {s : Store}

theorem created_append (before rest : List Step) :
    s.created settings (before ++ rest) =
      s.created settings before ++ (s.run settings before).created settings rest := by
  induction before generalizing s with
  | nil => rfl
  | cons step before ih => rw [List.cons_append, created, created, ih, run_cons, List.append_assoc]

/-! ## One document for each -/

open Answer (KeptAs)

/-- A document that is put in the place of the one with its id, and is kept of it, leaves each document
kept. -/
theorem rel_replace {α : Type} {key : α → String} {wrap : α → Answer}
    (refl : ∀ a, KeptAs (wrap a) (wrap a)) {l : List α} (distinct : (l.map key).Nodup) {a b : α}
    (found : l.find? (fun c => key c == key a) = some b) (kept : KeptAs (wrap b) (wrap a)) :
    Multiset.Rel KeptAs ↑(l.map wrap) ↑((Keyed.replace key l a).map wrap) := by
  rw [Keyed.replace, ← Multiset.map_coe, ← Multiset.map_coe, ← Multiset.map_coe,
    Multiset.rel_map_right, Multiset.rel_map_left, Multiset.rel_map_right]
  refine Multiset.rel_refl_of_refl_on ?_
  intro c hc
  by_cases hkey : key c = key a
  · have hsame : b = c := by
      rw [← hkey, Keyed.find?_of_mem distinct hc] at found
      exact (Option.some.inj found).symm
    rw [if_pos hkey, ← hsame]
    exact kept
  · rw [if_neg hkey]
    exact refl c

theorem rel_self {α : Type} {wrap : α → Answer} (refl : ∀ a, KeptAs (wrap a) (wrap a))
    (l : List α) : Multiset.Rel KeptAs ↑(l.map wrap) ↑(l.map wrap) := by
  rw [← Multiset.map_coe, Multiset.rel_map]
  exact Multiset.rel_refl_of_refl_on fun a _ => refl a

/-- Documents are kept where definitions are, and events and requests are each on their own. -/
theorem rel_documents {left : Store} (definitions : left.definitions = s.definitions)
    (events : Multiset.Rel KeptAs ↑(s.events.map Answer.event) ↑(left.events.map Answer.event))
    (requests : Multiset.Rel KeptAs ↑(s.requests.map Answer.request)
      ↑(left.requests.map Answer.request)) :
    Multiset.Rel KeptAs s.documents left.documents := by
  rw [documents, documents, definitions]
  exact ((rel_self KeptAs.definition s.definitions).add events).add requests

theorem rel_documents_self (s : Store) : Multiset.Rel KeptAs s.documents s.documents :=
  rel_documents rfl (rel_self KeptAs.event_refl s.events) (rel_self KeptAs.request_refl s.requests)

theorem rel_replaceEvent (distinct : (s.events.map (·.id)).Nodup) {e changed : Event}
    (found : s.event? changed.id = some e) (origin : e.SameOrigin changed) :
    Multiset.Rel KeptAs s.documents (s.replaceEvent changed).documents :=
  rel_documents rfl (rel_replace KeptAs.event_refl distinct found (.event origin))
    (rel_self KeptAs.request_refl s.requests)

theorem rel_replaceRequest (distinct : (s.requests.map (·.id)).Nodup) {r decided : RewardRequest}
    (found : s.request? decided.id = some r) (claim : r.SameClaim decided) :
    Multiset.Rel KeptAs s.documents (s.replaceRequest decided).documents :=
  rel_documents rfl (rel_self KeptAs.event_refl s.events)
    (rel_replace KeptAs.request_refl distinct found (.request claim))

theorem documents_addDefinition (d : Definition) :
    ({ s with definitions := s.definitions ++ [d] } : Store).documents =
      s.documents + ↑[Answer.definition d] := by
  simp only [documents, List.map_append, List.map_cons, List.map_nil, ← Multiset.coe_add]
  abel

theorem documents_addEvent (e : Event) :
    ({ s with events := s.events ++ [e] } : Store).documents = s.documents + ↑[Answer.event e] := by
  simp only [documents, List.map_append, List.map_cons, List.map_nil, ← Multiset.coe_add]
  abel

theorem documents_addRequest (r : RewardRequest) :
    ({ s with requests := s.requests ++ [r] } : Store).documents =
      s.documents + ↑[Answer.request r] := by
  simp only [documents, List.map_append, List.map_cons, List.map_nil, ← Multiset.coe_add]
  abel

/-- What is stored after a step is what was stored before and what the step made. -/
theorem rel_after (settings : HubSettings) (events : (s.events.map (·.id)).Nodup)
    (requests : (s.requests.map (·.id)).Nodup) (step : Step) :
    Multiset.Rel KeptAs (s.documents + ↑(step.created settings s))
      (step.after settings s).documents := by
  have hself := rel_documents_self s
  -- most steps make nothing, and it is left to show that what was stored is kept
  have hnone {left : Store} (h : Multiset.Rel KeptAs s.documents left.documents) :
      Multiset.Rel KeptAs (s.documents + ↑([] : List Answer)) left.documents := by
    simpa using h
  rcases Step.cases settings step s with ⟨fault, hfault, hafter⟩ | ⟨answer, hanswer, heffect⟩
  · rw [hafter, Step.created, hfault]
    exact hnone hself
  · rw [Step.created, hanswer]
    dsimp only
    generalize step.op = op at heffect ⊢
    generalize step.after settings s = left at heffect ⊢
    cases heffect with
    | look looks _ =>
      cases op with
      | define _ _ | createEvent _ _ | request _ _ => cases looks
      | _ => exact hnone hself
    | record _ _ => exact hnone hself
    | define _ _ =>
      rw [documents_addDefinition]
      exact hself.add (rel_self KeptAs.definition [_])
    | createEvent _ _ _ =>
      rw [documents_addEvent]
      exact hself.add (rel_self KeptAs.event_refl [_])
    | request _ _ _ _ _ =>
      rw [documents_addRequest]
      exact hself.add (rel_self KeptAs.request_refl [_])
    | updateEvent found _ _ _ =>
      have hid := (of_event? found).2
      subst hid
      exact hnone (rel_replaceEvent events found ⟨rfl, rfl, rfl⟩)
    | setRewards found =>
      have hid := (of_event? found).2
      subst hid
      exact hnone (rel_replaceEvent events found ⟨rfl, rfl, rfl⟩)
    | approve found _ _ =>
      have hid := (of_request? found).2
      subst hid
      exact hnone (rel_replaceRequest requests found RewardRequest.decidedRequest_sameClaim)
    | reject found _ =>
      have hid := (of_request? found).2
      subst hid
      exact hnone (rel_replaceRequest requests found RewardRequest.decidedRequest_sameClaim)

end Store

namespace Step

variable {settings : HubSettings} {step : Step} {s : Store}

theorem mem_created {answer : Answer} : answer ∈ step.created settings s ↔
    step.op.creates = true ∧ step.outcome settings s = .ok answer := by
  rw [created]
  cases step.outcome settings s with
  | error fault => simp
  | ok answer' =>
    by_cases h : step.op.creates = true
    · simp [h, eq_comm]
    · simp [h]

/-- Whoever makes a document gets one to see that has the data of the step. -/
theorem makes_of_creates (creates : step.op.creates = true) {answer : Answer}
    (answered : step.outcome settings s = .ok answer) : step.Makes answer := by
  have heffect := effect_of_ok answered
  generalize hop : step.op = op at heffect creates
  generalize step.after settings s = left at heffect
  cases heffect with
  | look looks _ =>
    cases op with
    | define _ _ | createEvent _ _ | request _ _ => cases looks
    | _ => cases creates
  | define _ _ => exact .definition hop rfl rfl
  | createEvent _ _ _ => exact .event hop rfl rfl
  | request found _ _ _ _ =>
    have hid := (Store.of_event? found).2
    subst hid
    exact .request hop rfl
  | _ => cases creates

theorem Makes.keptAs_self {answer : Answer} (h : step.Makes answer) :
    Answer.KeptAs answer answer := by
  cases h with
  | definition _ _ _ => exact .definition _
  | event _ _ _ => exact .event_refl _
  | request _ _ => exact .request_refl _

end Step

/-! ## Runs -/

namespace Store

variable {s : Store}

theorem listEvents_everything :
    ∃ es, s.listEvents .everything = .ok es ∧ es.Perm s.events := by
  have hall : s.events.filter (fun e => EventQuery.everything.admits e.toEventVersion) = s.events :=
    List.filter_eq_self.2 fun _ _ => rfl
  refine ⟨sortedBy Event.before s.events, ?_, sortedBy_perm Event.before s.events⟩
  rw [listEvents, hall]
  rfl

theorem listRequests_perm : (s.listRequests .everything).Perm s.requests := by
  have hall : s.requests.filter RequestQuery.everything.admits = s.requests :=
    List.filter_eq_self.2 fun _ _ => rfl
  rw [listRequests, hall]
  exact sortedBy_perm RewardRequest.before s.requests

end Store

section Runs

variable {settings : HubSettings} {steps before rest : List Step}

open Answer (KeptAs)

theorem Step.created_self (settings : HubSettings) (step : Step) (s : Store) :
    Multiset.Rel KeptAs ↑(step.created settings s) ↑(step.created settings s) := by
  refine Multiset.rel_refl_of_refl_on ?_
  intro answer hanswer
  rcases mem_created.1 (Multiset.mem_coe.1 hanswer) with ⟨hcreates, hanswered⟩
  exact (makes_of_creates hcreates hanswered).keptAs_self

/-- The documents of a run are those that its steps made. -/
theorem DistinctDraws.rel_created (distinct : DistinctDraws settings steps) :
    Multiset.Rel KeptAs ↑(Store.empty.created settings steps)
      (Store.empty.run settings steps).documents := by
  refine distinct.induction (P := fun steps s =>
    Multiset.Rel KeptAs ↑(Store.empty.created settings steps) s.documents) .zero ?_
  intro before step hbefore _ ih
  have hcreated : Store.empty.created settings (before ++ [step]) =
      Store.empty.created settings before ++
        step.created settings (Store.empty.run settings before) := by
    rw [Store.created_append, Store.created, Store.created, List.append_nil]
  -- what was made before is stored, and the step keeps it and adds what it makes
  have hstep :=
    Store.rel_after settings hbefore.events_distinct hbefore.requests_distinct step
  rw [hcreated, ← Multiset.coe_add]
  exact (ih.add (step.created_self settings _)).trans KeptAs hstep

/-- Each document that a run made is found under its id. -/
theorem DistinctDraws.holds_created (distinct : DistinctDraws settings steps) {answer : Answer}
    (made : answer ∈ Store.empty.created settings steps) :
    (Store.empty.run settings steps).Holds answer := by
  rcases Multiset.exists_mem_of_rel_of_mem distinct.rel_created (Multiset.mem_coe.2 made) with
    ⟨kept, hkept, hsame⟩
  simp only [Store.documents, Multiset.mem_add, Multiset.mem_coe, List.mem_map] at hkept
  cases hsame with
  | definition d =>
    have hd : d ∈ (Store.empty.run settings steps).definitions := by simpa using hkept
    exact .definition (Store.findDefinition_eq_ok.2
      (Keyed.find?_of_mem distinct.definitions_distinct hd))
  | @event e e' origin =>
    have he : e' ∈ (Store.empty.run settings steps).events := by simpa using hkept
    have hfound := Keyed.find?_of_mem distinct.events_distinct he
    rw [origin.id] at hfound
    exact .event (Store.findEvent_eq_ok.2 hfound) origin
  | @request r r' claim =>
    have hr : r' ∈ (Store.empty.run settings steps).requests := by simpa using hkept
    have hfound := distinct.request?_of_mem hr
    rw [claim.id] at hfound
    exact .request (Store.findRequest_eq_ok.2 hfound) claim

/-- A request was made for an event that was stored, and that event is still there. -/
theorem RewardRequest.exists_event {id : String} {r : RewardRequest}
    (found : (Store.empty.run settings steps).request? id = some r) :
    ∃ e, (Store.empty.run settings steps).event? r.eventId = some e := by
  rcases RewardRequest.exists_made found with ⟨before, step, rest, first, rfl, hturn, hlater⟩
  cases hturn with
  | made _ _ stored _ _ _ _ =>
    rcases Event.exists_run settings stored (step :: rest) with ⟨e', hfound⟩
    rw [← Store.run_append] at hfound
    refine ⟨e', ?_⟩
    rw [hlater.eventId]
    exact hfound

theorem DistinctDraws.exists_event (distinct : DistinctDraws settings steps) {r : RewardRequest}
    (hr : r ∈ (Store.empty.run settings steps).requests) :
    ∃ e, (Store.empty.run settings steps).findEvent r.eventId = .ok e := by
  rcases RewardRequest.exists_event (distinct.request?_of_mem hr) with ⟨e, hfound⟩
  exact ⟨e, Store.findEvent_eq_ok.2 hfound⟩

/-- The leaves of an event that is stored compare with definitions that are. -/
theorem DistinctDraws.exists_definition (distinct : DistinctDraws settings steps) {e : Event}
    (he : e ∈ (Store.empty.run settings steps).events) {l : Leaf} (hl : l ∈ e.condition.leaves) :
    ∃ d, (Store.empty.run settings steps).findDefinition l.conditionId = .ok d := by
  have hfound := Keyed.find?_of_mem distinct.events_distinct he
  have hsound := (Store.events_proper steps hfound).present.sound
  have hid : l.conditionId ∈ e.condition.conditionIds := Tree.mem_conditionIds.2 ⟨l, hl, rfl⟩
  rcases Tree.exists_of_mem_conditionIds hsound hid with ⟨d, hd⟩
  exact ⟨d, Store.findDefinition_eq_ok.2 hd⟩

/-- Nothing that a run made is lost.  The listings of all definitions, events and requests have one
document for each successful step that makes one, and no others.  Such a step answers a document with
the data of its creation, which is found under its id ever after and keeps these data.  What stored
documents refer to is stored: the events of requests, and the definitions of the leaves of events. -/
theorem nothing_lost (distinct : DistinctDraws settings steps) :
    (∃ es, (Store.empty.run settings steps).listEvents .everything = .ok es ∧
      Multiset.Rel Answer.KeptAs ↑(Store.empty.created settings steps)
        (↑(((Store.empty.run settings steps).listDefinitions none).map Answer.definition) +
          ↑(es.map Answer.event) +
          ↑(((Store.empty.run settings steps).listRequests .everything).map Answer.request))) ∧
    (∀ before step rest answer, steps = before ++ step :: rest → step.op.creates = true →
      step.outcome settings (Store.empty.run settings before) = .ok answer →
        step.Makes answer ∧ (Store.empty.run settings steps).Holds answer) ∧
    (∀ r ∈ (Store.empty.run settings steps).requests,
      ∃ e, (Store.empty.run settings steps).findEvent r.eventId = .ok e) ∧
    ∀ e ∈ (Store.empty.run settings steps).events, ∀ l ∈ e.condition.leaves,
      ∃ d, (Store.empty.run settings steps).findDefinition l.conditionId = .ok d := by
  refine ⟨?_, ?_, fun r hr => distinct.exists_event hr, fun e he l hl =>
    distinct.exists_definition he hl⟩
  · rcases Store.listEvents_everything (s := Store.empty.run settings steps) with ⟨es, hes, hperm⟩
    refine ⟨es, hes, ?_⟩
    rw [Multiset.coe_eq_coe.2 (Store.listDefinitions_perm.map _),
      Multiset.coe_eq_coe.2 (hperm.map _), Multiset.coe_eq_coe.2 (Store.listRequests_perm.map _)]
    exact distinct.rel_created
  · rintro before step rest answer rfl hcreates hanswered
    refine ⟨Step.makes_of_creates hcreates hanswered, distinct.holds_created ?_⟩
    rw [Store.created_append, Store.created]
    have hmade := Step.mem_created.2 ⟨hcreates, hanswered⟩
    exact List.mem_append_right _ (List.mem_append_left _ hmade)

/-- Ann's request is still found when it was approved, and is the one that she made. -/
theorem nothing_lost_of_ann :
    ∃ r, (Store.empty.run Sample.settings Sample.steps).findRequest "r1" = .ok r ∧
      r.userId = "ann" ∧ r.eventId = "e1" ∧ r.createdAt = Sample.second 30 := by
  have hmade : ∃ r, Sample.firstTry.outcome Sample.settings
      (Store.empty.run Sample.settings (Sample.steps.take 5)) = .ok (.request r) ∧ r.id = "r1" :=
    ⟨_, rfl, rfl⟩
  rcases hmade with ⟨r, hanswered, hid⟩
  have hlife := (nothing_lost Sample.steps_distinct).2.1 (Sample.steps.take 5) Sample.firstTry
    (Sample.steps.drop 6) (.request r) rfl rfl hanswered
  rcases hlife with ⟨hmakes, hholds⟩
  cases hmakes with
  | request asked createdAt =>
    have hsame : Operation.request "ann" "e1" = .request r.userId r.eventId := asked
    injection hsame with huser hevent
    cases hholds with
    | @request _ kept found claim =>
      rw [hid] at found
      exact ⟨kept, found, claim.userId.trans huser.symm, claim.eventId.trans hevent.symm,
        claim.createdAt.trans createdAt⟩

end Runs
end EventRewards
