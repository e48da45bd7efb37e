import EventRewards.Proofs.Hub.Effects
import Mathlib.Data.List.Induction
import Mathlib.Data.List.Perm.Subperm

/-!
# Runs of the hub

A run is a list of steps, performed one after the other.  A step brings its operation, the instant at
which it is performed and the ids that it may draw; steps that fail leave the store as it was.  Every
document of a store that a run from the empty one leaves bears an id drawn in the run, so where no id
is drawn twice, no two documents share one.
-/

namespace EventRewards

/-- One use of the hub. -/
structure Step where
  now : Instant
  fresh : FreshIds
  op : Operation

/-- The number of ids that completing drafts takes. -/
def Draft.lacking {α : Type} (drafts : List (Draft α)) : Nat :=
  drafts.countP (·.id?.isNone)

/-- The number of ids that an operation draws when it succeeds. -/
def Operation.draws : Operation → Nat
  | .define _ _ | .record _ | .request _ _ => 1
  | .createEvent _ input => Draft.lacking input.rewards + 1
  | .updateEvent _ _ change => Draft.lacking (change.rewards.getD [])
  | .setRewards _ _ rewards => Draft.lacking rewards
  | _ => 0

namespace Step

variable (settings : HubSettings) (step : Step) (s : Store)

/-- What a step answers, or the fault on which it ends. -/
def outcome : Except Fault Answer :=
  (step.op.perform settings step.now step.fresh s).1

/-- The store after a step. -/
def after : Store :=
  (step.op.perform settings step.now step.fresh s).2

/-- The ids that a step draws.  What is drawn on the way to a fault goes into no document, and is
left out. -/
def drawn : List String :=
  match step.outcome settings s with
  | .ok _ => (List.range step.op.draws).map fun k => step.fresh (k + 1)
  | .error _ => []

end Step

namespace Store

/-- The store after steps performed in a row. -/
def run (settings : HubSettings) (s : Store) (steps : List Step) : Store :=
  steps.foldl (fun s step => step.after settings s) s

/-- The ids drawn by steps performed in a row. -/
def drawnIds (settings : HubSettings) : Store → List Step → List String
  | _, [] => []
  | s, step :: rest => step.drawn settings s ++ drawnIds settings (step.after settings s) rest

/-- The ids of all documents. -/
def ids (s : Store) : List String :=
  s.definitions.map (·.id) ++ s.logs.map (·.id) ++ s.events.map (·.id) ++ s.requests.map (·.id)

end Store

/-- No id is drawn twice in a run from the empty store.  The hub relies on its source of ids for this,
and looks at no id before it uses it. -/
def DistinctDraws (settings : HubSettings) (steps : List Step) : Prop :=
  (Store.empty.drawnIds settings steps).Nodup

/-- The clock never goes backwards in a run. -/
def ClockForward (steps : List Step) : Prop :=
  steps.Pairwise fun a b => a.now ≤ b.now

/-! ## Steps -/

namespace Step

variable {settings : HubSettings} {step : Step} {s : Store}

/-- A step fails and changes nothing, or its operation has its effect. -/
theorem cases (settings : HubSettings) (step : Step) (s : Store) :
    (∃ fault, step.outcome settings s = .error fault ∧ step.after settings s = s) ∨
    ∃ answer, step.outcome settings s = .ok answer ∧
      Effect settings step.now step.fresh s step.op answer (step.after settings s) := by
  rw [outcome, after, Operation.perform]
  cases h : step.op.apply settings step.now step.fresh s with
  | error fault => exact .inl ⟨fault, rfl, rfl⟩
  | ok p => exact .inr ⟨p.1, rfl, Operation.effect_of_apply h⟩

theorem effect_of_ok {answer : Answer} (answered : step.outcome settings s = .ok answer) :
    Effect settings step.now step.fresh s step.op answer (step.after settings s) := by
  rcases cases settings step s with ⟨fault, hfault, _⟩ | ⟨answer', hanswer, heffect⟩
  · rw [answered] at hfault
    cases hfault
  · have hsame : answer = answer' := Except.ok.inj (answered.symm.trans hanswer)
    rw [hsame]
    exact heffect

theorem outcome_eq_error {fault : Fault} : step.outcome settings s = .error fault ↔
    step.op.apply settings step.now step.fresh s = .error fault := by
  rw [outcome, Operation.perform]
  cases step.op.apply settings step.now step.fresh s with
  | error fault' => simp
  | ok p => simp

/-- What holds before a step and after each effect that its operation may have holds after it. -/
theorem after_induction {P : Store → Prop} (before : P s)
    (effect : ∀ op answer left, step.op = op → step.outcome settings s = .ok answer →
      Effect settings step.now step.fresh s op answer left → P left) :
    P (step.after settings s) := by
  rcases cases settings step s with ⟨_, _, hafter⟩ | ⟨answer, hanswer, heffect⟩
  · rw [hafter]
    exact before
  · exact effect step.op answer _ rfl hanswer heffect

/-- A look leaves the store as it was. -/
theorem after_of_looks (looks : step.op.looks = true) : step.after settings s = s := by
  refine after_induction (P := fun left => left = s) rfl ?_
  intro op answer left hop _ heffect
  rw [hop] at looks
  cases heffect with
  | look _ _ => rfl
  | _ => cases looks

/-- A request that succeeds is for a stored event that has started, and answers a new request. -/
theorem exists_of_request {user eventId : String} {answer : Answer}
    (asked : step.op = .request user eventId) (answered : step.outcome settings s = .ok answer) :
    ∃ e, s.event? eventId = some e ∧ e.startedAt ≤ step.now ∧
      answer = .request (s.newRequest settings.boundLogs step.now step.fresh user e) := by
  have heffect := effect_of_ok answered
  rw [asked] at heffect
  generalize step.after settings s = left at heffect
  cases heffect with
  | look looks _ => cases looks
  | @request _ _ e found _ started _ _ => exact ⟨e, found, started, rfl⟩

end Step

/-! ## Drawn ids -/

theorem Draft.completeAll_drawn {α : Type} (fresh : FreshIds) (drawn : Nat)
    (drafts : List (Draft α)) :
    (Draft.completeAll fresh drawn drafts).2 = drawn + Draft.lacking drafts := by
  induction drafts generalizing drawn with
  | nil => rfl
  | cons d rest ih =>
    simp only [completeAll, ih, lacking, List.countP_cons]
    cases d.id? with
    | none => simp; omega
    | some id => simp

/-- A new event takes the last of the ids that its creation draws. -/
theorem Store.newEvent_id (now : Instant) (fresh : FreshIds) (user : String) (input : NewEvent) :
    (Store.newEvent now fresh user input).id = fresh (Draft.lacking input.rewards + 1) := by
  have hdrawn := Draft.completeAll_drawn fresh 0 input.rewards
  rw [Nat.zero_add] at hdrawn
  rw [← hdrawn]
  rfl

namespace Store

variable {settings : HubSettings} {s : Store}

theorem ids_replaceEvent (e : Event) : (s.replaceEvent e).ids = s.ids := by
  have hmap : (s.replaceEvent e).events.map (·.id) = s.events.map (·.id) :=
    Keyed.map_replace s.events e
  simp only [ids, hmap]
  rfl

theorem ids_replaceRequest (r : RewardRequest) : (s.replaceRequest r).ids = s.ids := by
  have hmap : (s.replaceRequest r).requests.map (·.id) = s.requests.map (·.id) :=
    Keyed.map_replace s.requests r
  simp only [ids, hmap]
  rfl

/-- The ids of the documents are those from before and one that was drawn, if a document is new. -/
theorem ids_after (step : Step) :
    (step.after settings s).ids.Subperm (s.ids ++ step.drawn settings s) := by
  have hkept : s.ids.Subperm (s.ids ++ step.drawn settings s) :=
    (List.sublist_append_left _ _).subperm
  refine Step.after_induction (P := fun left => left.ids.Subperm _) hkept ?_
  intro op answer left hop houtcome heffect
  have hdrawn : step.drawn settings s =
      (List.range op.draws).map fun k => step.fresh (k + 1) := by
    rw [Step.drawn, houtcome, hop]
  -- a new document bears the last of the ids drawn; without one, no id changes
  cases heffect with
  | look _ _ => exact hkept
  | define _ _ =>
    have hone : step.drawn settings s = [step.fresh 1] := hdrawn
    rw [hone, List.subperm_iff_count]
    intro id
    simp only [ids, List.map_append, List.map_cons, List.map_nil, List.count_append, newDefinition]
    omega
  | record _ _ =>
    have hone : step.drawn settings s = [step.fresh 1] := hdrawn
    rw [hone, List.subperm_iff_count]
    intro id
    simp only [ids, List.map_append, List.map_cons, List.map_nil, List.count_append, newLog]
    omega
  | createEvent _ _ _ =>
    -- the ids drawn before that went to the rewards
    rw [hdrawn, Operation.draws, List.range_succ, List.subperm_iff_count]
    intro id
    simp only [ids, List.map_append, List.map_cons, List.map_nil, List.count_append, newEvent_id]
    omega
  | updateEvent _ _ _ _ =>
    rw [ids_replaceEvent]
    exact hkept
  | setRewards _ =>
    rw [ids_replaceEvent]
    exact hkept
  | request _ _ _ _ _ =>
    have hone : step.drawn settings s = [step.fresh 1] := hdrawn
    rw [hone, List.subperm_iff_count]
    intro id
    simp only [ids, List.map_append, List.map_cons, List.map_nil, List.count_append, newRequest]
    omega
  | approve _ _ _ =>
    rw [ids_replaceRequest]
    exact hkept
  | reject _ _ =>
    rw [ids_replaceRequest]
    exact hkept

/-! ## Runs -/

@[simp]
theorem run_nil : s.run settings [] = s :=
  rfl

theorem run_cons (step : Step) (rest : List Step) :
    s.run settings (step :: rest) = (step.after settings s).run settings rest :=
  rfl

theorem run_append (before rest : List Step) :
    s.run settings (before ++ rest) = (s.run settings before).run settings rest :=
  List.foldl_append

theorem run_snoc (before : List Step) (step : Step) :
    s.run settings (before ++ [step]) = step.after settings (s.run settings before) :=
  run_append before [step]

theorem drawnIds_append (before rest : List Step) :
    s.drawnIds settings (before ++ rest) =
      s.drawnIds settings before ++ (s.run settings before).drawnIds settings rest := by
  induction before generalizing s with
  | nil => rfl
  | cons step before ih =>
    rw [List.cons_append, drawnIds, drawnIds, ih, run_cons, List.append_assoc]

theorem ids_run (steps : List Step) :
    (s.run settings steps).ids.Subperm (s.ids ++ s.drawnIds settings steps) := by
  induction steps generalizing s with
  | nil =>
    rw [drawnIds, List.append_nil, run_nil]
  | cons step rest ih =>
    rw [run_cons, drawnIds, ← List.append_assoc]
    exact ih.trans ((List.subperm_append_right _).2 (ids_after step))

/-- What each step of a run keeps holds after the run if it held before. -/
theorem run_induction {P : Store → Prop} {steps : List Step} (before : P s)
    (keeps : ∀ step ∈ steps, ∀ s, P s → P (step.after settings s)) :
    P (s.run settings steps) := by
  induction steps generalizing s with
  | nil => exact before
  | cons step rest ih =>
    refine ih (keeps step List.mem_cons_self s before) ?_
    intro step' hstep'
    exact keeps step' (List.mem_cons_of_mem _ hstep')

end Store

namespace DistinctDraws

variable {settings : HubSettings} {steps before rest : List Step}

theorem of_append (h : DistinctDraws settings (before ++ rest)) : DistinctDraws settings before := by
  rw [DistinctDraws, Store.drawnIds_append] at h
  exact (List.nodup_append.1 h).1

/-- Where no id is drawn twice, no two documents have the same id. -/
theorem ids_nodup (h : DistinctDraws settings steps) :
    (Store.empty.run settings steps).ids.Nodup := by
  have hids : (Store.empty.run settings steps).ids.Subperm
      (Store.empty.ids ++ Store.empty.drawnIds settings steps) := Store.ids_run steps
  rcases hids with ⟨l, hperm, hsub⟩
  exact hperm.nodup_iff.1 (hsub.nodup h)

theorem definitions_distinct (h : DistinctDraws settings steps) :
    ((Store.empty.run settings steps).definitions.map (·.id)).Nodup := by
  have hids := h.ids_nodup
  simp only [Store.ids, List.nodup_append] at hids
  exact hids.1.1.1

theorem events_distinct (h : DistinctDraws settings steps) :
    ((Store.empty.run settings steps).events.map (·.id)).Nodup := by
  have hids := h.ids_nodup
  simp only [Store.ids, List.nodup_append] at hids
  exact hids.1.2.1

theorem requests_distinct (h : DistinctDraws settings steps) :
    ((Store.empty.run settings steps).requests.map (·.id)).Nodup := by
  have hids := h.ids_nodup
  simp only [Store.ids, List.nodup_append] at hids
  exact hids.2.1

/-- What holds in the empty store and is kept by each step of the run holds after the run.  A step
may use that the ids of documents are distinct before and after it. -/
theorem induction {P : List Step → Store → Prop} (h : DistinctDraws settings steps)
    (start : P [] .empty)
    (keeps : ∀ before step, DistinctDraws settings before →
      DistinctDraws settings (before ++ [step]) → P before (Store.empty.run settings before) →
      P (before ++ [step]) (step.after settings (Store.empty.run settings before))) :
    P steps (Store.empty.run settings steps) := by
  induction steps using List.reverseRecOn with
  | nil => exact start
  | append_singleton before step ih =>
    rw [Store.run_snoc]
    exact keeps before step h.of_append h (ih h.of_append)

end DistinctDraws

/-- A clock that never goes backwards shows, from a step on, no time before that step's. -/
theorem ClockForward.le_of_mem {before rest : List Step} {step : Step}
    (forward : ClockForward (before ++ step :: rest)) :
    ∀ later ∈ step :: rest, step.now ≤ later.now := by
  have hlater := (List.pairwise_append.1 forward).2.1
  intro later hmem
  rcases List.mem_cons.1 hmem with rfl | hrest
  · exact le_rfl
  · exact List.rel_of_pairwise_cons hlater hrest

/-! ## A small run -/

namespace Sample

def settings : HubSettings :=
  ⟨true⟩

/-- A second of 1970-01-01. -/
def second (n : Fin 86400) : Instant :=
  ⟨0, n, 0, by decide, by decide, n.2, by decide⟩

/-- A step all of whose draws give one id. -/
def step (n : Fin 86400) (id : String) (op : Operation) : Step :=
  ⟨second n, fun _ => id, op⟩

/-- Some visit, or a share on the blog. -/
def condition : Tree :=
  ⟨.or, [.leaf ⟨"d1", .exists, .text "any"⟩, .leaf ⟨"d2", .eq, .text "blog"⟩]⟩

/-- Ann visits and is approved, after a request that fails because she has an open one; Bob has done
nothing that counts. -/
def steps : List Step :=
  [step 0 "d1" (.define "ops" ⟨"visits", "Visits", .text⟩),
    step 0 "d2" (.define "ops" ⟨"shares", "Shares", .text⟩),
    step 5 "e1" (.createEvent "ops"
      { name := "launch"
        description := none
        startedAt := second 10
        endedAt := second 100
        condition := condition
        distribution := .manual
        rewards := []
        status := none }),
    step 20 "l1" (.record ⟨"ann", "visits", .text "home", none⟩),
    step 20 "l2" (.record ⟨"bob", "clicks", .text "banner", none⟩),
    step 30 "r1" (.request "ann" "e1"),
    step 31 "r2" (.request "ann" "e1"),
    step 40 "r3" (.request "bob" "e1"),
    step 45 "w1" (.setRewards "ops" "e1" [⟨none, fun id => ⟨id, "cap", .item, .ofInt 1⟩⟩]),
    step 50 "n1" (.approve "ops" "r1")]

theorem steps_distinct : DistinctDraws settings steps := by
  rw [DistinctDraws]
  decide +kernel

theorem steps_forward : ClockForward steps := by
  rw [ClockForward]
  decide +kernel

/-- The small run with looks in the place of all that Ann does and of the decision on her request. -/
def stepsWithoutAnn : List Step :=
  steps.take 3 ++
    [step 20 "l1" .countByStatus,
      step 20 "l2" (.record ⟨"bob", "clicks", .text "banner", none⟩),
      step 30 "r1" (.findEvent "e1"),
      step 31 "r2" (.listDefinitions none),
      step 40 "r3" (.request "bob" "e1")] ++
    (steps.drop 8).take 1 ++ [step 50 "n1" (.findRequest "r1")]

/-- Ann's request, after her visit. -/
def firstTry : Step :=
  step 30 "r1" (.request "ann" "e1")

/-- Her request is rejected, and another kind of log of hers is recorded. -/
def rejection : List Step :=
  [step 40 "n1" (.reject "ops" "r1" (some "later")),
    step 41 "l3" (.record ⟨"ann", "shares", .text "forum", none⟩)]

/-- She asks once more. -/
def secondTry : Step :=
  step 45 "r2" (.request "ann" "e1")

/-- Bob's request, after Ann's. -/
def bobsTry : Step :=
  step 40 "r3" (.request "bob" "e1")

/-- An event is planned, and then brought forward under another name. -/
def planning : List Step :=
  [step 0 "d1" (.define "ops" ⟨"visits", "Visits", .text⟩),
    step 0 "d2" (.define "ops" ⟨"shares", "Shares", .text⟩),
    step 5 "e1" (.createEvent "ops"
      { name := "launch"
        description := none
        startedAt := second 10
        endedAt := second 100
        condition := condition
        distribution := .manual
        rewards := []
        status := none }),
    step 6 "n1" (.updateEvent "ops" "e1"
      { name := some "preview"
        description := none
        startedAt := some (second 7)
        endedAt := none
        condition := some condition
        distribution := none
        rewards := none })]

/-- A leaf without a definition, beside a group without children. -/
def faultyCondition : Tree :=
  ⟨.or, [.leaf ⟨"d9", .exists, .text "any"⟩, .group .and []]⟩

/-- An event that cannot be planned, for its condition. -/
def faultyEvent : NewEvent :=
  { name := "launch"
    description := none
    startedAt := second 10
    endedAt := second 100
    condition := faultyCondition
    distribution := .manual
    rewards := []
    status := none }

/-- A definition that is added when the planned event runs. -/
def clicks : Step :=
  step 8 "d3" (.define "ops" ⟨"clicks", "Clicks", .number⟩)

/-- What follows: a change that comes too late, new rewards, and a look when the event is over. -/
def aftermath : List Step :=
  [step 9 "n2" (.updateEvent "ops" "e1"
      { name := some "relaunch"
        description := none
        startedAt := some (second 20)
        endedAt := none
        condition := none
        distribution := none
        rewards := none }),
    step 9 "w1" (.setRewards "ops" "e1" [⟨none, fun id => ⟨id, "cap", .item, .ofInt 1⟩⟩]),
    step 101 "n3" (.findEvent "e1")]

/-- The event of the small plan gets rewards before it is changed, and others after a change that
comes too late. -/
def rewardedPlanning : List Step :=
  planning.take 3 ++
    [step 5 "w0" (.setRewards "ops" "e1" [⟨none, fun id => ⟨id, "mug", .item, .ofInt 1⟩⟩])] ++
    planning.drop 3 ++ aftermath

end Sample
end EventRewards
