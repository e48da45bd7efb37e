import EventRewards.Proofs.Hub.Atomicity
import EventRewards.Proofs.Hub.EventLife

/-!
# Revisions of events

A change of an event that succeeds puts a new version in the place of the present one, which goes into
the histories as it is by then.  Nothing else is ever put there, so that the histories tell all that an
event has been between its creation and its last change.  A change checks a condition only where it is
not the present one; to check it in any case would come to the same, since the present condition of a
stored event is always sound.
-/

namespace EventRewards

variable {settings : HubSettings} {step : Step} {s : Store} {id : String}

/-! ## Versions that are replaced -/

namespace Step

/-- Whether a step is a change of the event with an id, and one that succeeds. -/
def revises (settings : HubSettings) (step : Step) (s : Store) (id : String) : Bool :=
  match step.op, step.outcome settings s with
  | .updateEvent _ changed _, .ok _ => changed == id
  | _, _ => false

/-- The version of the event with an id that a step replaces, if it does. -/
def replaced (settings : HubSettings) (step : Step) (s : Store) (id : String) :
    List EventVersion :=
  if step.revises settings s id then (s.event? id).toList.map (·.toEventVersion) else []

theorem revises_iff : step.revises settings s id = true ↔
    (∃ user change, step.op = .updateEvent user id change) ∧
      ∃ answer, step.outcome settings s = .ok answer := by
  rw [revises]
  constructor
  · intro h
    split at h
    · next user changed change answer hop houtcome =>
      rw [beq_iff_eq] at h
      subst h
      exact ⟨⟨user, change, hop⟩, answer, houtcome⟩
    · cases h
  · rintro ⟨⟨user, change, hop⟩, answer, houtcome⟩
    simp [hop, houtcome]

/-- A step that revises an event finds it, and leaves it changed in its place. -/
theorem effect_of_revises (h : step.revises settings s id = true) :
    ∃ user change e, step.op = .updateEvent user id change ∧ s.event? id = some e ∧
      step.outcome settings s =
        .ok (.event (Store.changedEvent step.now step.fresh user change e)) ∧
      (step.after settings s).event? id =
        some (Store.changedEvent step.now step.fresh user change e) := by
  rcases revises_iff.1 h with ⟨⟨user, change, hop⟩, answer, hanswer⟩
  have heffect := effect_of_ok hanswer
  rw [hop] at heffect
  generalize step.after settings s = left at heffect ⊢
  cases heffect with
  | look looks _ => cases looks
  | @updateEvent _ _ _ e found _ _ _ =>
    refine ⟨user, change, e, hop, found, hanswer, ?_⟩
    have hid : (Store.changedEvent step.now step.fresh user change e).id = id :=
      (Store.of_event? found).2
    rw [Store.event?_replaceEvent, if_pos hid, found]
    rfl

end Step

/-- The versions that the event with an id had when steps performed in a row replaced them, oldest
first. -/
def Store.replacedVersions (settings : HubSettings) (id : String) :
    Store → List Step → List EventVersion
  | _, [] => []
  | s, step :: rest =>
    step.replaced settings s id ++ replacedVersions settings id (step.after settings s) rest

/-- What all versions of an event have in common. -/
structure EventVersion.SameIdentity (v w : EventVersion) : Prop where
  id : w.id = v.id
  status : w.status = v.status
  createdAt : w.createdAt = v.createdAt
  createdBy : w.createdBy = v.createdBy

/-- Whether a value is the one that was given, or the one from before where none was. -/
inductive TakenOver {α : Type} (before : α) : Option α → α → Prop where
  | given (a : α) : TakenOver before (some a) a
  | kept : TakenOver before none before

/-- What a change makes of one version of an event: it takes over what is given, and keeps the rest.
Rewards are given with or without their ids. -/
structure EventChange.Yields (fresh : FreshIds) (change : EventChange) (before after : EventVersion) :
    Prop where
  name : TakenOver before.name change.name after.name
  description : TakenOver before.description (change.description.map some) after.description
  startedAt : TakenOver before.startedAt change.startedAt after.startedAt
  endedAt : TakenOver before.endedAt change.endedAt after.endedAt
  condition : TakenOver before.condition change.condition after.condition
  distribution : TakenOver before.distribution change.distribution after.distribution
  rewards : TakenOver before.rewards
    (change.rewards.map fun drafts => (Draft.completeAll fresh 0 drafts).1) after.rewards

/-- What a step does to the histories of a stored event. -/
inductive Event.Revised (settings : HubSettings) (step : Step) (s : Store) (e : Event) :
    Event → Prop where
  | untouched {e' : Event} (unrevised : step.revises settings s e.id = false)
      (histories : e'.histories = e.histories) : Revised settings step s e e'
  | revised {user : String} {change : EventChange} {e' : Event}
      (asked : step.op = .updateEvent user e.id change)
      (answered : step.outcome settings s = .ok (.event e'))
      (histories : e'.histories = e.histories ++ [e.toEventVersion])
      (yields : change.Yields step.fresh e.toEventVersion e'.toEventVersion) :
      Revised settings step s e e'

/-! ## One step -/

theorem takenOver_getD {α : Type} (before : α) (given : Option α) :
    TakenOver before given (given.getD before) := by
  cases given with
  | none => exact .kept
  | some a => exact .given a

theorem takenOver_or {α : Type} (before given : Option α) :
    TakenOver before (given.map some) (given.or before) := by
  cases given with
  | none => exact .kept
  | some a => exact .given (some a)

theorem EventChange.yields_changedEvent (now : Instant) (fresh : FreshIds) (user : String)
    (change : EventChange) (e : Event) :
    change.Yields fresh e.toEventVersion
      (Store.changedEvent now fresh user change e).toEventVersion where
  name := takenOver_getD _ _
  description := takenOver_or _ _
  startedAt := takenOver_getD _ _
  endedAt := takenOver_getD _ _
  condition := takenOver_getD _ _
  distribution := takenOver_getD _ _
  rewards := takenOver_getD _ _

namespace Event

/-- A stored event stays stored under its identity, and only a change that succeeds adds to its
histories. -/
theorem revised_after (settings : HubSettings) (step : Step) {e : Event}
    (found : s.event? id = some e) :
    ∃ e', (step.after settings s).event? id = some e' ∧ e.Revised settings step s e' ∧
      e.SameIdentity e'.toEventVersion := by
  have hid := (Store.of_event? found).2
  subst hid
  cases hrevises : step.revises settings s e.id with
  | true =>
    rcases Step.effect_of_revises hrevises with ⟨user, change, e', hop, found', hanswer, hleft⟩
    cases found'.symm.trans found
    exact ⟨_, hleft, .revised hop hanswer rfl (change.yields_changedEvent step.now step.fresh user e),
      ⟨rfl, rfl, rfl, rfl⟩⟩
  | false =>
    have hturn := turn_after settings step s e.id
    rw [found] at hturn
    generalize (step.after settings s).event? e.id = after at hturn ⊢
    cases hturn with
    | kept => exact ⟨e, rfl, .untouched hrevises rfl, ⟨rfl, rfl, rfl, rfl⟩⟩
    | updated asked answered _ _ _ =>
      rw [Step.revises_iff.2 ⟨⟨_, _, asked⟩, _, answered⟩] at hrevises
      cases hrevises
    | rewarded _ _ => exact ⟨_, rfl, .untouched hrevises rfl, ⟨rfl, rfl, rfl, rfl⟩⟩

/-- The histories of a stored event grow by the version that a step replaces, if it does. -/
theorem Revised.histories_eq {e e' : Event} (revised : e.Revised settings step s e')
    (found : s.event? e.id = some e) :
    e'.histories = e.histories ++ step.replaced settings s e.id := by
  cases revised with
  | untouched unrevised histories =>
    rw [Step.replaced, unrevised, histories]
    exact (List.append_nil _).symm
  | revised asked answered histories _ =>
    rw [Step.replaced, Step.revises_iff.2 ⟨⟨_, _, asked⟩, _, answered⟩, histories, found]
    rfl

end Event

/-! ## Runs -/

namespace Store

/-- The histories of the event with an id; an event that is not stored has none. -/
def historiesOf (s : Store) (id : String) : List EventVersion :=
  (s.event? id).elim [] Event.histories

theorem historiesOf_after (settings : HubSettings) (step : Step) (s : Store) (id : String) :
    (step.after settings s).historiesOf id = s.historiesOf id ++ step.replaced settings s id := by
  cases hfound : s.event? id with
  | none =>
    have hreplaced : step.replaced settings s id = [] := by simp [Step.replaced, hfound]
    have hturn := Event.turn_after settings step s id
    rw [hreplaced, historiesOf, historiesOf, hfound]
    rw [hfound] at hturn
    generalize (step.after settings s).event? id = after at hturn ⊢
    -- an event begins without histories
    cases hturn with
    | absent => rfl
    | created _ _ _ _ _ => rfl
  | some e =>
    have hid := (of_event? hfound).2
    subst hid
    rcases Event.revised_after settings step hfound with ⟨e', hfound', hrevised, _⟩
    rw [historiesOf, historiesOf, hfound, hfound']
    exact hrevised.histories_eq hfound

/-- The histories of an event after a run are those from before, and what the run replaced. -/
theorem historiesOf_run (settings : HubSettings) (s : Store) (steps : List Step) (id : String) :
    (s.run settings steps).historiesOf id =
      s.historiesOf id ++ s.replacedVersions settings id steps := by
  induction steps generalizing s with
  | nil => exact (List.append_nil _).symm
  | cons step rest ih =>
    rw [run_cons, ih, historiesOf_after, replacedVersions, List.append_assoc]

end Store

theorem EventVersion.SameIdentity.trans {u v w : EventVersion} (h : u.SameIdentity v)
    (h' : v.SameIdentity w) : u.SameIdentity w :=
  ⟨h'.id.trans h.id, h'.status.trans h.status, h'.createdAt.trans h.createdAt,
    h'.createdBy.trans h.createdBy⟩

/-- All versions of an event have one identity after a step if they had one before. -/
theorem Event.Revised.sameIdentity {e e' : Event} (revised : e.Revised settings step s e')
    (present : e.SameIdentity e'.toEventVersion)
    (past : ∀ v ∈ e.histories, v.SameIdentity e.toEventVersion) :
    ∀ v ∈ e'.histories, v.SameIdentity e'.toEventVersion := by
  intro v hv
  cases revised with
  | untouched _ histories =>
    rw [histories] at hv
    exact (past v hv).trans present
  | revised _ _ histories _ =>
    rw [histories, List.mem_append, List.mem_singleton] at hv
    rcases hv with hpast | rfl
    · exact (past v hpast).trans present
    · exact present

theorem Store.sameIdentity_run (steps : List Step) {e : Event}
    (found : (Store.empty.run settings steps).event? id = some e) :
    ∀ v ∈ e.histories, v.SameIdentity e.toEventVersion := by
  refine run_induction (P := fun s => ∀ e, s.event? id = some e →
    ∀ v ∈ e.histories, v.SameIdentity e.toEventVersion) ?_ ?_ e found
  · intro e hfound
    cases hfound
  · intro step _ s ih e' hfound'
    have hturn := Event.turn_after settings step s id
    rw [hfound'] at hturn
    cases hfound : s.event? id with
    | none =>
      rw [hfound] at hturn
      cases hturn with
      | created _ _ _ _ _ =>
        intro v hv
        cases hv
    | some e =>
      rcases Event.revised_after settings step hfound with ⟨e'', hfound'', hrevised, hpresent⟩
      cases hfound'.symm.trans hfound''
      exact hrevised.sameIdentity hpresent (ih e hfound)

/-- After any run, the histories of a stored event are the versions that the changes which succeeded
have replaced, each as it was just before its change, in the order of the changes; all have the
identity of the event.  A step of the run at which the event is stored leaves its histories alone,
unless it changes the event: then the version after it has what the change gives, and what the version
before it had where the change gives nothing. -/
theorem histories_record_changes {steps : List Step} {e : Event}
    (found : (Store.empty.run settings steps).event? id = some e) :
    e.histories = Store.empty.replacedVersions settings id steps ∧
    (∀ v ∈ e.histories, v.SameIdentity e.toEventVersion) ∧
    ∀ before step rest, steps = before ++ step :: rest →
      (step.revises settings (Store.empty.run settings before) id = true →
        ∃ e₁, (Store.empty.run settings before).event? id = some e₁) ∧
      ∀ e₁, (Store.empty.run settings before).event? id = some e₁ →
        ∃ e₂, (Store.empty.run settings (before ++ [step])).event? id = some e₂ ∧
          e₁.Revised settings step (Store.empty.run settings before) e₂ := by
  refine ⟨?_, Store.sameIdentity_run steps found, ?_⟩
  · have hrun := Store.historiesOf_run settings .empty steps id
    rw [Store.historiesOf, found] at hrun
    exact hrun
  · intro before step rest _
    constructor
    · intro hrevises
      rcases Step.effect_of_revises hrevises with ⟨_, _, e₁, _, hfound₁, _⟩
      exact ⟨e₁, hfound₁⟩
    · intro e₁ hfound₁
      rcases Event.revised_after settings step hfound₁ with ⟨e₂, hfound₂, hrevised, _⟩
      rw [Store.run_snoc]
      exact ⟨e₂, hfound₂, hrevised⟩

/-- Its histories hold the one version that was replaced, with the rewards that it had by then. -/
theorem histories_record_changes_of_launch :
    ∃ e, (Store.empty.run Sample.settings Sample.rewardedPlanning).event? "e1" = some e ∧
      (e.name, e.rewards.map (·.id)) = ("preview", ["w1"]) ∧
      e.histories.map (fun v => (v.name, v.rewards.map (·.id))) = [("launch", ["w0"])] ∧
      e.histories = Store.empty.replacedVersions Sample.settings "e1" Sample.rewardedPlanning ∧
      ∀ v ∈ e.histories, v.SameIdentity e.toEventVersion := by
  have hstored : ((Store.empty.run Sample.settings Sample.rewardedPlanning).event? "e1").map
      (fun e => ((e.name, e.rewards.map (·.id)),
        e.histories.map fun v => (v.name, v.rewards.map (·.id)))) =
      some (("preview", ["w1"]), [("launch", ["w0"])]) := by
    decide +kernel
  rcases Option.map_eq_some_iff.1 hstored with ⟨e, hfound, hshape⟩
  rcases Prod.mk.inj hshape with ⟨hpresent, hpast⟩
  have hrecord := histories_record_changes hfound
  exact ⟨e, hfound, hpresent, hpast, hrecord.1, hrecord.2.1⟩

/-! ## Checking a condition again -/

namespace Store

/-- Refuses a condition that is not sound wherever one is given. -/
def checkSubmitted (s : Store) : Option Tree → Except Fault Unit
  | some t => s.checkCondition t
  | none => .ok ()

/-- Changes an event that has not started, and checks a condition even where it is the present one. -/
def updateEventRechecking (now : Instant) (fresh : FreshIds) (user id : String)
    (change : EventChange) (s : Store) : Except Fault (Event × Store) := do
  let e ← s.findEvent id
  checkUnstarted now e
  checkNewName change.name
  checkSchedule (change.startedAt.getD e.startedAt) (change.endedAt.getD e.endedAt)
  s.checkSubmitted change.condition
  let changed := changedEvent now fresh user change e
  return (changed, s.replaceEvent changed)

/-- Beside a present condition that is sound, one that equals it passes the check that it is spared. -/
theorem checkNewCondition_eq_checkSubmitted {present : Tree}
    (sound : present.root.Sound s.definition?) (given : Option Tree) :
    s.checkNewCondition present given = s.checkSubmitted given := by
  cases given with
  | none => rfl
  | some t =>
    rw [checkNewCondition, checkSubmitted]
    by_cases hsame : (t == present) = true
    · have hsound : t.root.Sound s.definition? := sound.of_same hsame
      rw [if_pos hsame, checkCondition_eq_ok.2 hsound]
    · rw [if_neg hsame]

end Store

/-- In every state that a run leaves, a change of an event that checks a condition only where it is not
the present one answers, fails and writes as one that checks it in any case. -/
theorem rechecking_changes_nothing (settings : HubSettings) (steps : List Step) (now : Instant)
    (fresh : FreshIds) (user id : String) (change : EventChange) :
    let s := Store.empty.run settings steps
    s.updateEvent now fresh user id change = s.updateEventRechecking now fresh user id change ∧
    (Operation.updateEvent user id change).perform settings now fresh s =
      InPlace.settle s (Operation.changing .event
        (s.updateEventRechecking now fresh user id change)) := by
  intro s
  have hsame : s.updateEvent now fresh user id change =
      s.updateEventRechecking now fresh user id change := by
    rw [Store.updateEvent, Store.updateEventRechecking, Store.findEvent]
    cases hfound : s.event? id with
    | none => rfl
    | some e =>
      have hsound : e.condition.root.Sound s.definition? :=
        (Store.events_proper steps hfound).present.sound
      have hcheck := Store.checkNewCondition_eq_checkSubmitted hsound change.condition
      simp only [Store.checkChange, bind_assoc]
      change _ = (Store.checkUnstarted now e >>= _)
      rw [← hcheck]
      rfl
  refine ⟨hsame, ?_⟩
  rw [Operation.perform_eq_settle, Operation.apply, hsame]

end EventRewards
