import EventRewards.Hub.Granting
import EventRewards.Proofs.Hub.Runs

/-!
# What eligibility is judged on

A request is judged on the definitions that the event's condition refers to, and on the user's logs of
their fields.  Nothing that is left out could have changed the verdict: it is the verdict on the whole
catalog and all logs of the user, or all from within the schedule where logs are bound to it.
-/

namespace EventRewards

/-- Whether a log may count for a user's request for an event, whatever its field: it is the user's
and, where logs are bound to the schedule, from within it. -/
def Log.countsFor (bounded : Bool) (userId : String) (e : Event) (l : Log) : Bool :=
  l.userId == userId && (!bounded || (e.startedAt ≤ l.loggedAt && l.loggedAt ≤ e.endedAt))

namespace Store

variable (bounded : Bool) (userId : String) (e : Event) (s : Store)

/-- The query asks for all that may count, of the fields of the definitions; where there are no
definitions, of every field. -/
theorem eligibilityQuery_admits (definitions : List Definition) (l : Log) :
    (eligibilityQuery bounded userId e definitions).admits l =
      (l.countsFor bounded userId e &&
        (definitions.isEmpty || definitions.any (·.fieldName == l.fieldName))) := by
  have hfields : (definitions.map (·.fieldName)).contains l.fieldName =
      definitions.any (·.fieldName == l.fieldName) := by
    simp only [List.contains_eq_any_beq, List.any_map, Function.comp_def,
      BEq.comm (a := l.fieldName)]
  cases bounded with
  | false =>
    simp only [LogQuery.admits, eligibilityQuery, Log.countsFor, Instant.isWithin, hfields,
      Option.all_some, Option.all_none, List.isEmpty_map, Bool.false_eq_true, if_false,
      Bool.not_false, Bool.true_or, Bool.and_true]
  | true =>
    simp only [LogQuery.admits, eligibilityQuery, Log.countsFor, Instant.isWithin, hfields,
      Option.all_some, List.isEmpty_map, if_true, Bool.not_true, Bool.false_or]
    cases l.userId == userId with
    | false => rfl
    | true => exact Bool.and_comm _ _

/-- The logs that are kept with a request, where the condition refers to some definition. -/
theorem eligibility_logs (known : s.definitionsById e.condition.conditionIds ≠ []) :
    (s.eligibility bounded userId e).2 = s.logs.filter fun l =>
      l.countsFor bounded userId e &&
        (s.definitionsById e.condition.conditionIds).any (·.fieldName == l.fieldName) := by
  rw [eligibility, queryLogs]
  refine List.filter_congr ?_
  intro l _
  rw [eligibilityQuery_admits, List.isEmpty_eq_false_iff.2 known, Bool.false_or]

/-- Of a field that a definition is fetched for, the query leaves out no log that may count. -/
theorem filter_eligibility_logs {d : Definition}
    (hd : d ∈ s.definitionsById e.condition.conditionIds) :
    (s.eligibility bounded userId e).2.filter (·.fieldName == d.fieldName) =
      (s.logs.filter (·.countsFor bounded userId e)).filter (·.fieldName == d.fieldName) := by
  have hlogs : (s.eligibility bounded userId e).2 =
      logsFor (s.definitionsById e.condition.conditionIds)
        (s.logs.filter (·.countsFor bounded userId e)) := by
    rw [eligibility_logs _ _ _ _ (List.ne_nil_of_mem hd), logsFor, List.filter_filter]
    refine List.filter_congr ?_
    intro l _
    exact Bool.and_comm _ _
  rw [hlogs, filter_logsFor hd]

/-- The narrowed inputs give the verdict of the whole catalog and all logs that may count. -/
theorem eligibility_eq_evaluate (distinct : (s.definitions.map (·.id)).Nodup)
    {definitions : List Definition} (perm : definitions.Perm s.definitions) :
    (s.eligibility bounded userId e).1 =
      e.condition.evaluate definitions (s.logs.filter (·.countsFor bounded userId e)) := by
  refine Tree.evaluate_congr ?_ ?_
  -- the ids that leaves refer to find the same definitions
  · intro id hid
    have hcatalog : s.definitions.find? (·.id == id) = definitions.find? (·.id == id) :=
      Keyed.find?_perm distinct perm.symm id
    rw [← hcatalog]
    exact find?_definitionsById hid
  -- and the fields of these have the same logs
  · intro id _ d hfound
    exact filter_eligibility_logs bounded userId e s (List.mem_of_find?_eq_some hfound)

end Store

/-- In every state that a run leaves, and for every user and event, a request is judged as the
condition would be on the catalog in any order and on all logs of the user, bound only to the schedule
where they are. -/
theorem verdict_on_everything {settings : HubSettings} {steps : List Step}
    (distinct : DistinctDraws settings steps) (userId : String) (e : Event)
    {definitions : List Definition}
    (perm : definitions.Perm (Store.empty.run settings steps).definitions) :
    ((Store.empty.run settings steps).eligibility settings.boundLogs userId e).1 =
      e.condition.evaluate definitions ((Store.empty.run settings steps).logs.filter
        (·.countsFor settings.boundLogs userId e)) :=
  Store.eligibility_eq_evaluate _ _ _ _ distinct.definitions_distinct perm

/-- Ann's visit counts for the event of the small run, whatever the order of the catalog. -/
theorem verdict_on_everything_for_ann :
    ((Store.empty.run Sample.settings Sample.steps).events.map fun e =>
      e.condition.evaluate (Store.empty.run Sample.settings Sample.steps).definitions.reverse
        ((Store.empty.run Sample.settings Sample.steps).logs.filter
          (·.countsFor Sample.settings.boundLogs "ann" e))) = [true] := by
  have hverdicts : ((Store.empty.run Sample.settings Sample.steps).events.map fun e =>
      ((Store.empty.run Sample.settings Sample.steps).eligibility Sample.settings.boundLogs "ann"
        e).1) = [true] := by
    decide +kernel
  rw [← hverdicts]
  refine List.map_congr_left ?_
  intro e _
  exact (verdict_on_everything Sample.steps_distinct "ann" e (List.reverse_perm _)).symm

end EventRewards
