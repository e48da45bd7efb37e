import EventRewards.Proofs.Hub.Turns

/-!
# The life of an event

Whatever is asked of the hub, every version of an event has a name, a schedule in order and a sound
condition.  An event may be changed until it starts; from then on it keeps its plan, and only its
rewards are ever replaced.
-/

namespace EventRewards

variable {settings : HubSettings} {step : Step} {s : Store}

/-! ## Versions -/

/-- What every version of an event owes to the checks that it has passed. -/
structure EventVersion.Proper (s : Store) (v : EventVersion) : Prop where
  named : Text.isBlankText v.name = false
  ordered : v.startedAt < v.endedAt
  sound : v.condition.root.Sound s.definition?

/-- An event all of whose versions are proper. -/
structure Event.ProperThroughout (s : Store) (e : Event) : Prop where
  present : e.toEventVersion.Proper s
  past : ∀ v ∈ e.histories, v.Proper s

/-- More definitions leave a condition sound: those that it refers to stay. -/
theorem Node.Sound.after {n : Node} (h : n.Sound s.definition?) :
    n.Sound (step.after settings s).definition? := by
  refine h.of_agree ?_
  intro l _ d hfound
  exact Store.definition?_after hfound

theorem EventVersion.Proper.after {v : EventVersion} (h : v.Proper s) :
    v.Proper (step.after settings s) :=
  ⟨h.named, h.ordered, h.sound.after⟩

theorem Event.ProperThroughout.after {e : Event} (h : e.ProperThroughout s) :
    e.ProperThroughout (step.after settings s) := by
  refine ⟨h.present.after, ?_⟩
  intro v hv
  exact (h.past v hv).after

/-- A change that fits leaves a proper version behind it a proper one. -/
theorem EventChange.Fits.proper {now : Instant} {fresh : FreshIds} {user : String}
    {change : EventChange} {e : Event} (fits : change.Fits s e) (h : e.toEventVersion.Proper s) :
    (Store.changedEvent now fresh user change e).toEventVersion.Proper s := by
  refine ⟨?_, fits.ordered, ?_⟩
  · change Text.isBlankText (change.name.getD e.name) = false
    cases hname : change.name with
    | none => exact h.named
    | some name => exact fits.named name hname
  · change (change.condition.getD e.condition).root.Sound s.definition?
    cases hcondition : change.condition with
    | none => exact h.sound
    | some t =>
      rcases fits.sound t hcondition with hsame | hsound
      · -- a condition that is not checked again may differ from the present one in signs of zeros
        exact h.sound.of_same hsame
      · exact hsound

/-- A step leaves the event with an id proper throughout. -/
theorem Event.Turn.properThroughout {before : Option Event} {e : Event}
    (turn : Event.Turn settings step s before (some e))
    (proper : ∀ e', before = some e' → e'.ProperThroughout s) : e.ProperThroughout s := by
  cases turn with
  | created _ _ named ordered sound =>
    refine ⟨⟨named, ordered, sound⟩, ?_⟩
    intro v hv
    cases hv
  | kept => exact proper e rfl
  | @updated user change e _ _ _ _ fits =>
    have he := proper e rfl
    refine ⟨fits.proper he.present, ?_⟩
    intro v hv
    -- the version that the change replaces goes into the histories
    rcases List.mem_append.1 hv with hpast | hpresent
    · exact he.past v hpast
    · rw [List.mem_singleton.1 hpresent]
      exact he.present
  | @rewarded user rewards e _ _ =>
    have he := proper e rfl
    exact ⟨⟨he.present.named, he.present.ordered, he.present.sound⟩, he.past⟩

theorem Store.events_proper (steps : List Step) {id : String} {e : Event}
    (found : (Store.empty.run settings steps).event? id = some e) :
    e.ProperThroughout (Store.empty.run settings steps) := by
  refine run_induction
    (P := fun s => ∀ e, s.event? id = some e → e.ProperThroughout s) ?_ ?_ e found
  · intro e hfound
    cases hfound
  · intro step _ s ih e hfound
    have hturn := Event.turn_after settings step s id
    rw [hfound] at hturn
    exact (hturn.properThroughout ih).after

theorem EventVersion.Proper.run {v : EventVersion} (h : v.Proper s) (steps : List Step) :
    v.Proper (s.run settings steps) :=
  Store.run_induction (P := fun s => v.Proper s) h fun _ _ _ hproper => hproper.after

/-- In every state of a run, each version of each stored event has a name that is not blank, a start
before its end and a sound condition.  The condition is sound against the definitions that it refers
to and against all definitions in any order, in that state and after whatever else the run does. -/
theorem versions_stay_proper {before rest : List Step}
    (distinct : DistinctDraws settings (before ++ rest)) :
    ∀ e ∈ (Store.empty.run settings before).events, ∀ v ∈ e.toEventVersion :: e.histories,
      Text.isBlankText v.name = false ∧ v.startedAt < v.endedAt ∧
      v.condition.isSound ((Store.empty.run settings (before ++ rest)).definitionsById
        v.condition.conditionIds) = true ∧
      ∀ definitions, definitions.Perm (Store.empty.run settings (before ++ rest)).definitions →
        v.condition.isSound definitions = true := by
  intro e he v hv
  have hfound : (Store.empty.run settings before).event? e.id = some e :=
    Keyed.find?_of_mem distinct.of_append.events_distinct he
  have hevent : e.ProperThroughout (Store.empty.run settings before) :=
    Store.events_proper before hfound
  have hversion : v.Proper (Store.empty.run settings before) := by
    rcases List.mem_cons.1 hv with rfl | hpast
    · exact hevent.present
    · exact hevent.past v hpast
  have hlater : v.Proper (Store.empty.run settings (before ++ rest)) := by
    rw [Store.run_append]
    exact hversion.run rest
  refine ⟨hlater.named, hlater.ordered, ?_, ?_⟩
  · exact (Store.checkTree_isValid_iff v.condition).2 hlater.sound
  · intro definitions perm
    exact (Store.isSound_iff_of_perm distinct.definitions_distinct perm v.condition).2 hlater.sound

/-- Both versions of the event of the small plan are sound to the end of the run, with one more
definition in the catalog. -/
theorem versions_stay_proper_for_preview :
    ∃ e ∈ (Store.empty.run Sample.settings Sample.planning).events,
      (e.toEventVersion :: e.histories).map (·.name) = ["preview", "launch"] ∧
      ∀ v ∈ e.toEventVersion :: e.histories, v.condition.isSound
        (Store.empty.run Sample.settings
          (Sample.planning ++ Sample.clicks :: Sample.aftermath)).definitions = true := by
  have hdistinct : DistinctDraws Sample.settings
      (Sample.planning ++ Sample.clicks :: Sample.aftermath) := by
    rw [DistinctDraws]
    decide +kernel
  have hstored : ∃ e ∈ (Store.empty.run Sample.settings Sample.planning).events,
      (e.toEventVersion :: e.histories).map (·.name) = ["preview", "launch"] := by
    decide +kernel
  rcases hstored with ⟨e, he, hnames⟩
  refine ⟨e, he, hnames, ?_⟩
  intro v hv
  exact (versions_stay_proper hdistinct e he v hv).2.2.2 _ (List.Perm.refl _)

/-! ## From the start on -/

/-- What is left of an event when its rewards are replaced: all but the rewards, and when and by whom
it was changed. -/
def Event.SamePlan (e e' : Event) : Prop :=
  ∃ rewards updatedAt updatedBy,
    e' = { e with rewards := rewards, updatedAt := updatedAt, updatedBy := updatedBy }

/-- Whether an event may not be changed at a time: it has started by then, or it is inactive. -/
def Event.Frozen (e : Event) (now : Instant) : Prop :=
  e.phase now ≠ .upcoming ∨ e.status = .inactive

/-- What a step makes of an event that may not be changed: it leaves it, or it sets its rewards. -/
inductive Event.OnlyRewarded (settings : HubSettings) (step : Step) (s : Store) (e : Event) :
    Event → Prop where
  | kept : OnlyRewarded settings step s e e
  | rewarded {user : String} {rewards : List (Draft Reward)} {e' : Event}
      (asked : step.op = .setRewards user e.id rewards)
      (answered : step.outcome settings s = .ok (.event e')) (plan : e.SamePlan e') :
      OnlyRewarded settings step s e e'

namespace Event

theorem SamePlan.refl (e : Event) : e.SamePlan e :=
  ⟨e.rewards, e.updatedAt, e.updatedBy, rfl⟩

theorem SamePlan.trans {e e' e'' : Event} (h : e.SamePlan e') (h' : e'.SamePlan e'') :
    e.SamePlan e'' := by
  rcases h with ⟨_, _, _, rfl⟩
  rcases h' with ⟨rewards, updatedAt, updatedBy, rfl⟩
  exact ⟨rewards, updatedAt, updatedBy, rfl⟩

theorem SamePlan.condition_eq {e e' : Event} (h : e.SamePlan e') : e'.condition = e.condition := by
  rcases h with ⟨_, _, _, rfl⟩
  rfl

theorem SamePlan.phase_eq {e e' : Event} (h : e.SamePlan e') (now : Instant) :
    e'.phase now = e.phase now := by
  rcases h with ⟨_, _, _, rfl⟩
  rfl

theorem OnlyRewarded.samePlan {e e' : Event} (h : OnlyRewarded settings step s e e') :
    e.SamePlan e' := by
  cases h with
  | kept => exact .refl e
  | rewarded _ _ plan => exact plan

theorem frozen_iff {e : Event} {now : Instant} :
    e.Frozen now ↔ e.startedAt ≤ now ∨ e.status = .inactive := by
  rw [Frozen, ne_eq, Store.phase_eq_upcoming, not_lt]

/-- What may not be changed may not be changed later on: its start and its status are of its plan. -/
theorem Frozen.later {e e' : Event} {now later : Instant} (h : e.Frozen now) (plan : e.SamePlan e')
    (forward : now ≤ later) : e'.Frozen later := by
  rcases plan with ⟨_, _, _, rfl⟩
  rcases frozen_iff.1 h with hstarted | hinactive
  · exact frozen_iff.2 (.inl (hstarted.trans forward))
  · exact .inr hinactive

theorem Turn.onlyRewarded {e : Event} {after : Option Event}
    (turn : Turn settings step s (some e) after) (frozen : e.Frozen step.now) :
    ∃ e', after = some e' ∧ OnlyRewarded settings step s e e' := by
  cases turn with
  | kept => exact ⟨e, rfl, .kept⟩
  | updated _ _ unstarted active _ =>
    -- neither of the reasons to be frozen passes the checks of a change
    rcases frozen_iff.1 frozen with hstarted | hinactive
    · exact absurd hstarted (not_le.2 unstarted)
    · rw [active] at hinactive
      cases hinactive
  | rewarded asked answered => exact ⟨_, rfl, .rewarded asked answered ⟨_, _, _, rfl⟩⟩

/-- An event that may not be changed keeps its plan for as long as the clock does not go back before
that time. -/
theorem Frozen.samePlan_run (settings : HubSettings) {id : String} {e : Event} {now : Instant}
    {steps : List Step} (frozen : e.Frozen now) (found : s.event? id = some e)
    (forward : ∀ step ∈ steps, now ≤ step.now) :
    ∃ e', (s.run settings steps).event? id = some e' ∧ e.SamePlan e' := by
  refine Store.run_induction (P := fun s => ∃ e', s.event? id = some e' ∧ e.SamePlan e')
    ⟨e, found, .refl e⟩ ?_
  rintro step hstep s ⟨e', hfound, hplan⟩
  have hturn := turn_after settings step s id
  rw [hfound] at hturn
  rcases hturn.onlyRewarded (frozen.later hplan (forward step hstep)) with ⟨e'', hfound', hnext⟩
  exact ⟨e'', hfound', hplan.trans hnext.samePlan⟩

/-- An event that has started keeps its plan for as long as the clock does not go back before that
time. -/
theorem samePlan_run (settings : HubSettings) {id : String} {e : Event} {now : Instant}
    {steps : List Step} (found : s.event? id = some e) (started : e.startedAt ≤ now)
    (forward : ∀ step ∈ steps, now ≤ step.now) :
    ∃ e', (s.run settings steps).event? id = some e' ∧ e.SamePlan e' :=
  Frozen.samePlan_run settings (frozen_iff.2 (.inl started)) found forward

theorem Turn.exists_after {e : Event} {after : Option Event}
    (turn : Turn settings step s (some e) after) : ∃ e', after = some e' := by
  cases turn with
  | kept => exact ⟨_, rfl⟩
  | updated _ _ _ _ _ => exact ⟨_, rfl⟩
  | rewarded _ _ => exact ⟨_, rfl⟩

/-- An event that is stored stays stored. -/
theorem exists_run (settings : HubSettings) {id : String} {e : Event}
    (found : s.event? id = some e) (steps : List Step) :
    ∃ e', (s.run settings steps).event? id = some e' := by
  refine Store.run_induction (P := fun s => ∃ e', s.event? id = some e') ⟨e, found⟩ ?_
  rintro step _ s ⟨e', hfound⟩
  have hturn := turn_after settings step s id
  rw [hfound] at hturn
  exact hturn.exists_after

end Event

/-! ## Phases, and the course of an event -/

namespace Phase

/-- The place of a phase in the order in which events pass through them. -/
def position : Phase → Nat
  | .upcoming => 0
  | .ongoing => 1
  | .ended => 2

instance : LE Phase :=
  ⟨fun a b => a.position ≤ b.position⟩

theorem upcoming_le (p : Phase) : .upcoming ≤ p :=
  Nat.zero_le p.position

end Phase

/-- While its schedule stays as it is, time takes an event through its phases in their order. -/
theorem EventVersion.phase_mono (e : EventVersion) {now later : Instant} (h : now ≤ later) :
    e.phase now ≤ e.phase later := by
  by_cases hstart : now < e.startedAt
  · have hnow : e.phase now = .upcoming := if_pos hstart
    rw [hnow]
    exact Phase.upcoming_le _
  · have hstart' : ¬later < e.startedAt := fun hlt => hstart (lt_of_le_of_lt h hlt)
    by_cases hend : e.endedAt < now
    · have hend' : e.endedAt < later := lt_of_lt_of_le hend h
      have hnow : e.phase now = .ended := (if_neg hstart).trans (if_pos hend)
      have hlater : e.phase later = .ended := (if_neg hstart').trans (if_pos hend')
      rw [hnow, hlater]
      exact Nat.le_refl _
    · have hnow : e.phase now = .ongoing := (if_neg hstart).trans (if_neg hend)
      have hlater : e.phase later = if e.endedAt < later then .ended else .ongoing :=
        if_neg hstart'
      rw [hnow, hlater]
      split
      · exact Nat.le_succ _
      · exact Nat.le_refl _

namespace Event

/-- An event that is stored is never found in an earlier phase than it was, for as long as the clock
does not go back before that time. -/
theorem phase_le_run (settings : HubSettings) {id : String} {e : Event} {now : Instant}
    {steps : List Step} (found : s.event? id = some e) (forward : ∀ step ∈ steps, now ≤ step.now) :
    ∃ e', (s.run settings steps).event? id = some e' ∧
      ∀ later, now ≤ later → e.phase now ≤ e'.phase later := by
  by_cases hphase : e.phase now = .upcoming
  · -- no phase comes before this one, wherever changes may move the schedule
    rcases exists_run settings found steps with ⟨e', hfound⟩
    refine ⟨e', hfound, ?_⟩
    intro later _
    simpa [hphase] using Phase.upcoming_le (e'.phase later)
  · -- its schedule can no longer be changed
    have hfrozen : e.Frozen now := .inl hphase
    rcases hfrozen.samePlan_run settings found forward with ⟨e', hfound, hplan⟩
    refine ⟨e', hfound, ?_⟩
    intro later hlater
    have hmono : e.phase now ≤ e.phase later := e.phase_mono hlater
    simpa [hplan.phase_eq] using hmono

/-- One more step, after steps that an event has passed through unchangeable, at most sets its
rewards. -/
theorem Frozen.onlyRewarded_run (settings : HubSettings) {id : String} {e : Event} {now : Instant}
    {steps : List Step} {next : Step} (frozen : e.Frozen now) (found : s.event? id = some e)
    (forward : ∀ step ∈ steps ++ [next], now ≤ step.now) :
    ∃ e₁ e₂, (s.run settings steps).event? id = some e₁ ∧
      (s.run settings (steps ++ [next])).event? id = some e₂ ∧ e.SamePlan e₁ ∧ e.SamePlan e₂ ∧
      e₁.OnlyRewarded settings next (s.run settings steps) e₂ := by
  have hpassed : ∀ step ∈ steps, now ≤ step.now := by
    intro step hmem
    exact forward step (List.mem_append_left _ hmem)
  have hnext : now ≤ next.now := forward next (List.mem_append_right _ List.mem_cons_self)
  rcases frozen.samePlan_run settings found hpassed with ⟨e₁, hfound, hplan⟩
  have hturn : Turn settings next (s.run settings steps) (some e₁)
      ((next.after settings (s.run settings steps)).event? id) := by
    simpa [hfound] using turn_after settings next (s.run settings steps) id
  rcases hturn.onlyRewarded (frozen.later hplan hnext) with ⟨e₂, hfound', honly⟩
  have hlast : (s.run settings (steps ++ [next])).event? id = some e₂ := by
    simpa [Store.run_snoc] using hfound'
  exact ⟨e₁, e₂, hfound, hlast, hplan, hplan.trans honly.samePlan, honly⟩

end Event

/-- The course of an event from a state of a run in which it is stored, with a clock that never goes
backwards.  Its phase is never one that comes before its phase in that state.  If it may not be
changed in that state, then no later step changes anything about it, but for the rewards and when
and by whom it was changed, and a step that changes these is a successful setting of its rewards. -/
theorem event_course {before rest : List Step} {step : Step}
    (forward : ClockForward (before ++ step :: rest)) {id : String} {e : Event}
    (found : (Store.empty.run settings (before ++ [step])).event? id = some e) :
    (∀ middle, middle <+: rest → ∃ e',
      (Store.empty.run settings (before ++ step :: middle)).event? id = some e' ∧
      ∀ now, (∀ passed ∈ step :: middle, passed.now ≤ now) → e.phase step.now ≤ e'.phase now) ∧
    (e.Frozen step.now → ∀ middle later others, rest = middle ++ later :: others → ∃ e₁ e₂,
      (Store.empty.run settings (before ++ step :: middle)).event? id = some e₁ ∧
      (Store.empty.run settings (before ++ step :: middle ++ [later])).event? id = some e₂ ∧
      e.SamePlan e₁ ∧ e.SamePlan e₂ ∧
      e₁.OnlyRewarded settings later (Store.empty.run settings (before ++ step :: middle)) e₂) := by
  have hclock : ∀ later ∈ rest, step.now ≤ later.now := by
    intro later hmem
    exact forward.le_of_mem later (List.mem_cons_of_mem _ hmem)
  -- the run up to the state, and what comes after it
  have hrun : ∀ steps, Store.empty.run settings (before ++ step :: steps) =
      (Store.empty.run settings (before ++ [step])).run settings steps := by
    intro steps
    rw [← Store.run_append, List.append_assoc, List.singleton_append]
  constructor
  · rintro middle ⟨others, rfl⟩
    have hclock' : ∀ later ∈ middle, step.now ≤ later.now := by
      intro later hmem
      exact hclock later (List.mem_append_left _ hmem)
    rcases Event.phase_le_run settings found hclock' with ⟨e', hfound, hphase⟩
    refine ⟨e', by simpa [← hrun] using hfound, ?_⟩
    intro now hnow
    exact hphase now (hnow step List.mem_cons_self)
  · rintro hfrozen middle later others rfl
    have hclock' : ∀ passed ∈ middle ++ [later], step.now ≤ passed.now := by
      intro passed hmem
      apply hclock
      rw [List.append_cons]
      exact List.mem_append_left _ hmem
    simpa [← hrun] using hfrozen.onlyRewarded_run settings found hclock'

/-- The event of the small plan is ongoing when the change comes that is too late: it has its plan to
the end, with other rewards. -/
theorem event_course_of_preview :
    ∃ e e', (Store.empty.run Sample.settings (Sample.planning ++ [Sample.clicks])).event? "e1" =
        some e ∧
      (Store.empty.run Sample.settings
        (Sample.planning ++ Sample.clicks :: Sample.aftermath)).event? "e1" = some e' ∧
      e.phase Sample.clicks.now = .ongoing ∧ .ongoing ≤ e'.phase (Sample.second 101) ∧
      e.SamePlan e' ∧ e'.rewards.map (·.name) = ["cap"] := by
  have hforward : ClockForward (Sample.planning ++ Sample.clicks :: Sample.aftermath) := by
    rw [ClockForward]
    decide +kernel
  have hphase : ((Store.empty.run Sample.settings (Sample.planning ++ [Sample.clicks])).event?
      "e1").map (fun e => e.phase Sample.clicks.now) = some .ongoing := by
    decide +kernel
  have hrewards : ((Store.empty.run Sample.settings
      (Sample.planning ++ Sample.clicks :: Sample.aftermath)).event? "e1").map
        (fun e => e.rewards.map (·.name)) = some ["cap"] := by
    decide +kernel
  rcases Option.map_eq_some_iff.1 hphase with ⟨e, hfound, hongoing⟩
  rcases Option.map_eq_some_iff.1 hrewards with ⟨e', hfound', hnames⟩
  have hcourse := event_course hforward hfound
  have hlater : e.phase Sample.clicks.now ≤ e'.phase (Sample.second 101) := by
    rcases hcourse.1 _ (List.prefix_refl _) with ⟨last, hlast, hphases⟩
    cases hlast.symm.trans hfound'
    exact hphases _ (by decide +kernel)
  have hplan : e.SamePlan e' := by
    have hfrozen : e.Frozen Sample.clicks.now := .inl (by rw [hongoing]; decide)
    rcases hcourse.2 hfrozen (Sample.aftermath.take 2) _ [] rfl with
      ⟨_, last, _, hlast, _, hsame, _⟩
    cases hlast.symm.trans hfound'
    exact hsame
  rw [hongoing] at hlater
  exact ⟨e, e', hfound, hfound', hongoing, hlater, hplan, hnames⟩

end EventRewards
