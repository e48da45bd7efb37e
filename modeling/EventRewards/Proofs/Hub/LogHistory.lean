import EventRewards.Proofs.Hub.Runs

/-!
# The history of logs

A step that records a log puts it behind those recorded before; no other step touches the logs.  So
after a run from the empty store the logs are those that the steps of the run recorded, in the order of
these steps, and a query picks from them and changes nothing about them.
-/

namespace EventRewards

/-! ## Recording -/

/-- Whether a log is the one that recording an input at an instant makes, whatever its id. -/
structure Log.IsRecordOf (l : Log) (now : Instant) (input : NewLog) : Prop where
  userId : l.userId = input.userId
  fieldName : l.fieldName = input.fieldName
  value : l.value = input.value
  metadata : l.metadata = input.metadata
  loggedAt : l.loggedAt = now

namespace Step

/-- The log that a step records and answers, if it does. -/
def recorded (settings : HubSettings) (step : Step) (s : Store) : List Log :=
  match step.op, step.outcome settings s with
  | .record _, .ok (.log l) => [l]
  | _, _ => []

variable {settings : HubSettings} {step : Step} {s : Store}

theorem recorded_of_ne (other : ∀ input, step.op ≠ .record input) :
    step.recorded settings s = [] := by
  unfold recorded
  split
  · next input l hop _ => exact absurd hop (other input)
  · rfl

theorem recorded_of_error {fault : Fault} (failed : step.outcome settings s = .error fault) :
    step.recorded settings s = [] := by
  unfold recorded
  split
  · next hanswered =>
    rw [failed] at hanswered
    cases hanswered
  · rfl

theorem recorded_of_ok {input : NewLog} {l : Log} (asked : step.op = .record input)
    (answered : step.outcome settings s = .ok (.log l)) : step.recorded settings s = [l] := by
  simp [recorded, asked, answered]

/-- A step records a log, which is then the last one, or leaves the logs as they were. -/
theorem recorded_cases (settings : HubSettings) (step : Step) (s : Store) :
    (∃ input l, step.op = .record input ∧ step.outcome settings s = .ok (.log l) ∧
      l.IsRecordOf step.now input ∧ step.recorded settings s = [l] ∧
      (step.after settings s).logs = s.logs ++ [l]) ∨
    step.recorded settings s = [] ∧ (step.after settings s).logs = s.logs := by
  rcases cases settings step s with ⟨fault, hfault, hafter⟩ | ⟨answer, hanswer, heffect⟩
  · rw [hafter]
    exact .inr ⟨recorded_of_error hfault, rfl⟩
  · have hother (h : ∀ input, step.op ≠ .record input) : step.recorded settings s = [] :=
      recorded_of_ne h
    generalize hop : step.op = op at heffect hother
    generalize step.after settings s = left at heffect ⊢
    cases heffect with
    | @record input _ _ =>
      exact .inl ⟨input, _, rfl, hanswer, ⟨rfl, rfl, rfl, rfl, rfl⟩,
        recorded_of_ok hop hanswer, rfl⟩
    | @look op' answer' looks _ =>
      refine .inr ⟨hother ?_, rfl⟩
      rintro input rfl
      cases looks
    | _ => exact .inr ⟨hother nofun, rfl⟩

theorem logs_after_eq (settings : HubSettings) (step : Step) (s : Store) :
    (step.after settings s).logs = s.logs ++ step.recorded settings s := by
  rcases recorded_cases settings step s with ⟨_, l, _, _, _, hrecorded, hlogs⟩ | ⟨hnone, hlogs⟩
  · rw [hlogs, hrecorded]
  · rw [hlogs, hnone, List.append_nil]

end Step

/-! ## Queries -/

/-- What a query asks of a log: to be of the user and of one of the fields, where these are given, and
to lie between the bounds that are given, both included. -/
structure LogQuery.Asks (q : LogQuery) (l : Log) : Prop where
  userId : ∀ id, q.userId = some id → l.userId = id
  fieldName : q.fieldNames ≠ [] → l.fieldName ∈ q.fieldNames
  startedAt : ∀ bound, q.startedAt = some bound → bound ≤ l.loggedAt
  endedAt : ∀ bound, q.endedAt = some bound → l.loggedAt ≤ bound

theorem LogQuery.admits_iff {q : LogQuery} {l : Log} : q.admits l = true ↔ q.Asks l := by
  have hfields : (q.fieldNames.isEmpty || q.fieldNames.contains l.fieldName) = true ↔
      (q.fieldNames ≠ [] → l.fieldName ∈ q.fieldNames) := by
    rw [Bool.or_eq_true, List.isEmpty_iff, List.contains_iff_mem, ← not_imp_not, not_not,
      or_iff_not_imp_left, not_imp_comm]
  simp only [admits, Instant.isWithin, Bool.and_eq_true, hfields, Option.all_eq_true,
    decide_eq_true_eq, beq_iff_eq]
  constructor
  · rintro ⟨⟨huser, hfield⟩, hstart, hend⟩
    exact ⟨huser, hfield, hstart, hend⟩
  · intro h
    exact ⟨⟨h.userId, h.fieldName⟩, h.startedAt, h.endedAt⟩

/-! ## Runs -/

namespace Store

/-- The logs recorded by steps performed in a row. -/
def recorded (settings : HubSettings) : Store → List Step → List Log
  | _, [] => []
  | s, step :: rest => step.recorded settings s ++ recorded settings (step.after settings s) rest

variable {settings : HubSettings} {s : Store}

/-- The induction is on the steps, each of which appends what it records. -/
theorem logs_run_eq (steps : List Step) :
    (s.run settings steps).logs = s.logs ++ s.recorded settings steps := by
  induction steps generalizing s with
  | nil => rw [run_nil, recorded, List.append_nil]
  | cons step rest ih =>
    calc
      (s.run settings (step :: rest)).logs
          = (step.after settings s).logs ++ recorded settings (step.after settings s) rest := by
            rw [run_cons, ih]
      _ = s.logs ++ recorded settings s (step :: rest) := by
            rw [Step.logs_after_eq, recorded, List.append_assoc]

end Store

/-- The log is append-only.  At any point of a run a query is answered with those logs that the run has
recorded so far and that meet the criteria given, as they were answered when they were recorded and in
the order in which they were.  Whatever step comes next, it records a log with the clock of the step,
which is put behind the others, or leaves the logs alone; and it does so unless it is a record that
succeeds. -/
theorem log_is_append_only (settings : HubSettings) (steps : List Step) :
    let s := Store.empty.run settings steps
    let recorded := Store.empty.recorded settings steps
    (∀ q : LogQuery, s.queryLogs q = recorded.filter q.admits ∧ ∀ l, q.admits l = true ↔ q.Asks l) ∧
    (∀ (step : Step) q, step.op = .queryLogs q →
      step.outcome settings s = .ok (.logs (recorded.filter q.admits))) ∧
    ∀ step : Step,
      (∃ input l, step.op = .record input ∧ step.outcome settings s = .ok (.log l) ∧
        l.IsRecordOf step.now input ∧ (step.after settings s).logs = s.logs ++ [l]) ∨
      (∀ input l, step.op = .record input → step.outcome settings s ≠ .ok (.log l)) ∧
        (step.after settings s).logs = s.logs := by
  intro s recorded
  have hlogs : s.logs = recorded := Store.logs_run_eq steps
  have hquery (q : LogQuery) : s.queryLogs q = recorded.filter q.admits := by
    rw [Store.queryLogs, hlogs]
  refine ⟨fun q => ⟨hquery q, fun l => LogQuery.admits_iff⟩, ?_, ?_⟩
  · intro step q asked
    have hanswer : step.outcome settings s = .ok (.logs (s.queryLogs q)) := by
      rw [Step.outcome, asked]
      rfl
    rw [hanswer, hquery]
  · intro step
    rcases step.recorded_cases settings s with ⟨input, l, asked, answered, made, _, hafter⟩ |
      ⟨hnone, hafter⟩
    · exact .inl ⟨input, l, asked, answered, made, hafter⟩
    · refine .inr ⟨?_, hafter⟩
      intro input l asked answered
      rw [Step.recorded_of_ok asked answered] at hnone
      cases hnone

/-- Of the small run a query for Ann's logs from the twentieth second on gets her visit, and none of
the clicks of Bob in the same second. -/
theorem log_is_append_only_for_ann :
    ∃ l, (Sample.step 60 "n1" (.queryLogs ⟨some "ann", [], some (Sample.second 20), none⟩)).outcome
        Sample.settings (Store.empty.run Sample.settings Sample.steps) = .ok (.logs [l]) ∧
      l.fieldName = "visits" ∧ l.loggedAt = Sample.second 20 := by
  have hquery := (log_is_append_only Sample.settings Sample.steps).2.1
    (Sample.step 60 "n1" (.queryLogs ⟨some "ann", [], some (Sample.second 20), none⟩)) _ rfl
  have hfound : ∃ l, (Store.empty.recorded Sample.settings Sample.steps).filter
      (LogQuery.admits ⟨some "ann", [], some (Sample.second 20), none⟩) = [l] ∧
      l.fieldName = "visits" ∧ l.loggedAt = Sample.second 20 :=
    ⟨_, rfl, rfl, rfl⟩
  rcases hfound with ⟨l, hl, hfield, hnow⟩
  rw [hl] at hquery
  exact ⟨l, hquery, hfield, hnow⟩

end EventRewards
