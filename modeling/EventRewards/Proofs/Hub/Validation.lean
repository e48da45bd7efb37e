import EventRewards.Proofs.Condition.Checks
import EventRewards.Proofs.Hub.Runs
import EventRewards.Proofs.Hub.Sorting

/-!
# Validation and creation

A condition is checked in two ways: against the definitions fetched for the ids that it collects,
when an event is created or changed, and against the list of all definitions, when it is only to be
validated.  Both give the same report, so that what is validated can be created, and what can not be
created is refused for the flaws that validation tells.
-/

namespace EventRewards

/-! ## Listings -/

namespace Store

variable {s : Store}

/-- The list of all definitions leaves none out and adds none. -/
theorem listDefinitions_perm : (s.listDefinitions none).Perm s.definitions := by
  have hall : s.definitions.filter (fun d =>
      Option.all (fun t => Text.containsFolded t d.displayName) none) = s.definitions :=
    List.filter_eq_self.2 fun _ _ => rfl
  calc
    (s.listDefinitions none).Perm _ := sortedBy_perm Definition.before _
    _ |>.Perm s.definitions := .of_eq hall

/-! ## Two ways to check -/

/-- Where no two definitions share an id, what is fetched for a leaf is what any list of all
definitions holds under its id. -/
theorem agreeOn_of_perm (distinct : (s.definitions.map (·.id)).Nodup)
    {definitions : List Definition} (perm : definitions.Perm s.definitions) {ids : List String}
    (idsDistinct : ids.Nodup) {id : String} (hid : id ∈ ids) :
    AgreeOn id (s.definitionsById ids) definitions := by
  have hdistinct : (definitions.map (·.id)).Nodup := (perm.map _).nodup_iff.2 distinct
  calc
    (s.definitionsById ids).filter (·.id == id) =
        ((s.definitionsById ids).find? (·.id == id)).toList :=
      Keyed.filter_eq_toList_find? (definitionsById_distinct idsDistinct) id
    _ = (s.definition? id).toList := congrArg Option.toList (find?_definitionsById hid)
    _ = (definitions.find? (·.id == id)).toList :=
      congrArg Option.toList (Keyed.find?_perm hdistinct perm id).symm
    _ = definitions.filter (·.id == id) := (Keyed.filter_eq_toList_find? hdistinct id).symm

/-- A check against the definitions fetched and one against all of them give the same report. -/
theorem checkTree_eq_of_perm (distinct : (s.definitions.map (·.id)).Nodup)
    {definitions : List Definition} (perm : definitions.Perm s.definitions) (t : Tree) :
    s.checkTree t = t.check definitions := by
  apply Tree.check_congr
  intro l hl
  have hid : l.conditionId ∈ t.conditionIds := Tree.mem_conditionIds.2 ⟨l, hl, rfl⟩
  exact agreeOn_of_perm distinct perm t.conditionIds_nodup hid

/-! ## Creation -/

theorem assertSound_eq_error {t : Tree} {fault : Fault} :
    s.assertSound t = .error fault ↔
      (s.checkTree t).isValid = false ∧ fault = .unsoundCondition (s.checkTree t).errors := by
  rw [assertSound]
  by_cases h : (s.checkTree t).isValid = true
  · simp [h]
  · simp [h, eq_comm (a := fault)]

/-- A condition without children is refused as such, and any other for its flaws. -/
theorem checkCondition_eq_error {t : Tree} {fault : Fault} :
    s.checkCondition t = .error fault ↔
      t.children = [] ∧ fault = .emptyCondition ∨
      t.children ≠ [] ∧ (s.checkTree t).isValid = false ∧
        fault = .unsoundCondition (s.checkTree t).errors := by
  rw [checkCondition]
  by_cases h : t.children = []
  · simp [h, eq_comm (a := fault)]
  · simp [h, assertSound_eq_error]

section Creation

variable {now : Instant} {fresh : FreshIds} {user : String} {input : NewEvent}

/-- With a name and a schedule in order, all depends on the condition. -/
theorem createEvent_eq (named : Text.isBlankText input.name = false)
    (ordered : input.startedAt < input.endedAt) :
    s.createEvent now fresh user input = (s.checkCondition input.condition).map fun _ =>
      (newEvent now fresh user input,
        { s with events := s.events ++ [newEvent now fresh user input] }) := by
  have hname : checkName input.name = .ok () := checkName_eq_ok.2 named
  have hschedule : checkSchedule input.startedAt input.endedAt = .ok () :=
    checkSchedule_eq_ok.2 ordered
  rw [createEvent, hname, hschedule]
  cases s.checkCondition input.condition with
  | error fault => rfl
  | ok done => rfl

theorem createEvent_eq_error (named : Text.isBlankText input.name = false)
    (ordered : input.startedAt < input.endedAt) {fault : Fault} :
    s.createEvent now fresh user input = .error fault ↔
      s.checkCondition input.condition = .error fault := by
  rw [createEvent_eq named ordered]
  cases s.checkCondition input.condition with
  | error fault' => simp [Except.map]
  | ok done => simp [Except.map]

end Creation

end Store

/-! ## Whatever the hub has been through -/

/-- After any run, a condition is found to have the same flaws and cautions in whichever way it is
checked.  An event with a name and a schedule in order is created exactly when its condition is found
valid, and otherwise refused with each flaw told after its place. -/
theorem creation_agrees_with_validation {settings : HubSettings} {steps : List Step}
    (distinct : DistinctDraws settings steps) (t : Tree) :
    let s := Store.empty.run settings steps
    let report := t.check (s.listDefinitions none)
    s.checkTree t = report ∧
    (∀ document, Tree.decode document = .ok t →
      Tree.checkJson document (s.listDefinitions none) = report) ∧
    ∀ now fresh user (input : NewEvent), input.condition = t →
      Text.isBlankText input.name = false → input.startedAt < input.endedAt →
      ((∃ made, s.createEvent now fresh user input = .ok made) ↔ report.isValid = true) ∧
      ∀ fault, s.createEvent now fresh user input = .error fault →
        t.children = [] ∧ fault = .emptyCondition ∨
        t.children ≠ [] ∧ fault = .unsoundCondition report.errors ∧
          fault.problems = report.errors.map fun f => f.place.text ++ ": " ++ f.what.message := by
  intro s report
  have hreport : s.checkTree t = report :=
    Store.checkTree_eq_of_perm distinct.definitions_distinct Store.listDefinitions_perm t
  refine ⟨hreport, ?_, ?_⟩
  · intro document hdocument
    rw [Tree.checkJson, hdocument]
  · intro now fresh user input hcondition hnamed hordered
    subst hcondition
    refine ⟨?_, ?_⟩
    · have hsound : report.isValid = true ↔ input.condition.root.Sound s.definition? := by
        rw [← hreport]
        exact Store.checkTree_isValid_iff input.condition
      rw [hsound]
      constructor
      · rintro ⟨⟨e, left⟩, hmade⟩
        exact (Store.createEvent_eq_ok.1 hmade).1.2.2
      · intro h
        exact ⟨_, Store.createEvent_eq_ok.2 ⟨⟨hnamed, hordered, h⟩, rfl, rfl⟩⟩
    · intro fault hfault
      have hcheck := (Store.createEvent_eq_error hnamed hordered).1 hfault
      rcases Store.checkCondition_eq_error.1 hcheck with hempty | ⟨hinhabited, _, hflaws⟩
      · exact .inl hempty
      · rw [hreport] at hflaws
        refine .inr ⟨hinhabited, hflaws, ?_⟩
        rw [hflaws]
        exact List.map_congr_left fun f hf => Tree.problemText_of_check hf

/-- The event with the faulty condition is refused for what validation finds in it. -/
theorem creation_agrees_with_validation_of_faulty :
    ∃ fault, (Store.empty.run Sample.settings (Sample.planning.take 2)).createEvent
        (Sample.second 5) (fun _ => "e1") "ops" Sample.faultyEvent = .error fault ∧
      fault.problems = ["conditions[0].leftOperand.id: unknown condition id 'd9'",
        "conditions[1].conditions: group must contain at least one condition"] := by
  have hdistinct : DistinctDraws Sample.settings (Sample.planning.take 2) := by
    rw [DistinctDraws]
    decide +kernel
  have hagrees := (creation_agrees_with_validation hdistinct Sample.faultyCondition).2.2
    (Sample.second 5) (fun _ => "e1") "ops" Sample.faultyEvent rfl (by decide) (by decide)
  have hinvalid : (Sample.faultyCondition.check
      ((Store.empty.run Sample.settings (Sample.planning.take 2)).listDefinitions none)).isValid =
      false := by
    decide +kernel
  cases hmade : (Store.empty.run Sample.settings (Sample.planning.take 2)).createEvent
      (Sample.second 5) (fun _ => "e1") "ops" Sample.faultyEvent with
  | ok made =>
    have hvalid := hagrees.1.1 ⟨made, hmade⟩
    rw [hinvalid] at hvalid
    cases hvalid
  | error fault =>
    refine ⟨fault, rfl, ?_⟩
    rcases hagrees.2 fault hmade with ⟨hempty, _⟩ | ⟨_, _, hproblems⟩
    · cases hempty
    · rw [hproblems]
      decide +kernel

end EventRewards
