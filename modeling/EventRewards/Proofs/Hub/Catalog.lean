import EventRewards.Proofs.Hub.Turns
import EventRewards.Proofs.Text.Trimming

/-!
# The catalog of definitions

Definitions have an id and a field name, and neither is ever shared.  Field names are stored trimmed,
and a new one is compared with them after it was trimmed as well, so that blanks around it do not tell
it from one that is taken.
-/

namespace EventRewards

namespace Store

/-- Whether the definitions bear field names of their own, which are trimmed and not empty. -/
structure FieldNamesApart (s : Store) : Prop where
  distinct : (s.definitions.map (·.fieldName)).Nodup
  named : ∀ d ∈ s.definitions, d.fieldName ≠ ""
  trimmed : ∀ d ∈ s.definitions, Text.trim d.fieldName = d.fieldName

variable {settings : HubSettings} {s : Store}

theorem fieldNamesApart_empty : empty.FieldNamesApart where
  distinct := List.nodup_nil
  named := by simp [empty]
  trimmed := by simp [empty]

theorem FieldNamesApart.add (h : s.FieldNamesApart) {d : Definition} (named : d.fieldName ≠ "")
    (trimmed : Text.trim d.fieldName = d.fieldName)
    (free : ∀ d' ∈ s.definitions, d'.fieldName ≠ d.fieldName) :
    ({ s with definitions := s.definitions ++ [d] } : Store).FieldNamesApart where
  distinct := by
    have hnew : d.fieldName ∉ s.definitions.map (·.fieldName) := by
      simpa using free
    simpa [List.nodup_append_comm] using And.intro hnew h.distinct
  named := List.forall_mem_append.2 ⟨h.named, List.forall_mem_singleton.2 named⟩
  trimmed := List.forall_mem_append.2 ⟨h.trimmed, List.forall_mem_singleton.2 trimmed⟩

/-- A step that adds a definition gives it a name that no other has; the other steps leave the
definitions as they are. -/
theorem FieldNamesApart.after (h : s.FieldNamesApart) (step : Step) :
    (step.after settings s).FieldNamesApart := by
  refine Step.after_induction (P := FieldNamesApart) h ?_
  intro op answer left _ _ heffect
  cases heffect with
  | define named free => exact h.add named (Text.trim_trim _) free
  | _ => exact ⟨h.distinct, h.named, h.trimmed⟩

theorem fieldNamesApart_run (settings : HubSettings) (steps : List Step) :
    (empty.run settings steps).FieldNamesApart :=
  run_induction (P := FieldNamesApart) fieldNamesApart_empty fun step _ _ h => h.after step

/-- A field name is refused as taken if and only if a definition has what it is trimmed to. -/
theorem define_eq_taken {now : Instant} {fresh : FreshIds} {user name : String}
    {input : NewDefinition} :
    s.define now fresh user input = .error (.fieldNameTaken name) ↔
      name = Text.trim input.fieldName ∧ name ≠ "" ∧ ∃ d ∈ s.definitions, d.fieldName = name := by
  have hany : s.definitions.any (·.fieldName == Text.trim input.fieldName) = true ↔
      ∃ d ∈ s.definitions, d.fieldName = Text.trim input.fieldName := by
    simp [List.any_eq_true]
  simp only [define, String.isEmpty_iff, hany]
  by_cases hempty : Text.trim input.fieldName = ""
  · rw [if_pos hempty]
    constructor
    · intro h
      cases h
    · rintro ⟨rfl, hnamed, _⟩
      exact absurd hempty hnamed
  · rw [if_neg hempty]
    by_cases htaken : ∃ d ∈ s.definitions, d.fieldName = Text.trim input.fieldName
    · rw [if_pos htaken]
      constructor
      · rintro ⟨⟩
        exact ⟨rfl, hempty, htaken⟩
      · rintro ⟨rfl, _, _⟩
        rfl
    · rw [if_neg htaken]
      constructor
      · intro h
        cases h
      · rintro ⟨rfl, _, hname⟩
        exact absurd hname htaken

end Store

namespace Step

variable {settings : HubSettings} {step : Step} {s : Store} {user : String} {input : NewDefinition}

theorem define_refused_iff (asked : step.op = .define user input) {name : String} :
    step.outcome settings s = .error (.fieldNameTaken name) ↔
      name = Text.trim input.fieldName ∧ name ≠ "" ∧ ∃ d ∈ s.definitions, d.fieldName = name := by
  rw [outcome_eq_error, asked, Operation.apply, Operation.changing_eq_error, Store.define_eq_taken]

/-- A definition that is answered was added, under the name that was asked for. -/
theorem of_define (asked : step.op = .define user input) {d : Definition}
    (answered : step.outcome settings s = .ok (.definition d)) :
    d ∈ (step.after settings s).definitions ∧ d.fieldName = Text.trim input.fieldName ∧
      d.fieldName ≠ "" := by
  have heffect := effect_of_ok answered
  rw [asked] at heffect
  generalize step.after settings s = left at heffect ⊢
  cases heffect with
  | look looks _ => cases looks
  | define named _ => exact ⟨List.mem_append_right _ List.mem_cons_self, rfl, named⟩

end Step

section Runs

variable {settings : HubSettings} {steps before rest : List Step}

/-- A definition is found under its id from the time on that it was stored. -/
theorem DistinctDraws.findDefinition_run (distinct : DistinctDraws settings before)
    {d : Definition} (hd : d ∈ (Store.empty.run settings before).definitions) (rest : List Step) :
    (Store.empty.run settings (before ++ rest)).findDefinition d.id = .ok d := by
  have hfound : (Store.empty.run settings before).definition? d.id = some d :=
    Keyed.find?_of_mem distinct.definitions_distinct hd
  rw [Store.findDefinition_eq_ok, Store.run_append]
  exact Store.definition?_run hfound rest

/-- The definitions of a run.  No two share an id or a field name, and field names are trimmed and not
empty.  A definition is found under its id ever after it was stored, with all of its fields as they
were.  A field name is refused as taken when a definition has what it is trimmed to, and so is every
name from which one that was accepted before differs by blanks at its ends. -/
theorem catalog_identity (distinct : DistinctDraws settings steps) :
    ((Store.empty.run settings steps).definitions.map (·.id)).Nodup ∧
    (Store.empty.run settings steps).FieldNamesApart ∧
    (∀ before rest, steps = before ++ rest →
      ∀ d ∈ (Store.empty.run settings before).definitions,
        (Store.empty.run settings steps).findDefinition d.id = .ok d) ∧
    (∀ (step : Step) user input, step.op = .define user input → ∀ name,
      step.outcome settings (Store.empty.run settings steps) = .error (.fieldNameTaken name) ↔
        name = Text.trim input.fieldName ∧ name ≠ "" ∧
          ∃ d ∈ (Store.empty.run settings steps).definitions, d.fieldName = name) ∧
    ∀ before step rest user input d, steps = before ++ step :: rest →
      step.op = .define user input →
      step.outcome settings (Store.empty.run settings before) = .ok (.definition d) →
        (Store.empty.run settings steps).findDefinition d.id = .ok d ∧
        ∀ (again : Step) user' input', again.op = .define user' input' →
          Text.SameInside input'.fieldName input.fieldName →
          again.outcome settings (Store.empty.run settings steps) =
            .error (.fieldNameTaken d.fieldName) := by
  refine ⟨distinct.definitions_distinct, Store.fieldNamesApart_run settings steps, ?_, ?_, ?_⟩
  · rintro before rest rfl d hd
    exact distinct.of_append.findDefinition_run hd rest
  · intro step user input asked name
    exact Step.define_refused_iff asked
  · rintro before step rest user input d rfl asked answered
    rcases Step.of_define asked answered with ⟨hmade, hname, hnamed⟩
    rw [← Store.run_snoc] at hmade
    rw [List.append_cons] at distinct ⊢
    have hfound := distinct.of_append.findDefinition_run hmade rest
    refine ⟨hfound, ?_⟩
    intro again user' input' hagain hsame
    have htrim : Text.trim input'.fieldName = Text.trim input.fieldName :=
      Text.trim_eq_trim_iff.2 hsame
    have hstored := Store.of_definition? (Store.findDefinition_eq_ok.1 hfound)
    exact (Step.define_refused_iff hagain).2 ⟨hname.trans htrim.symm, hnamed, d, hstored.1, rfl⟩

/-- Blanks around the name do not let visits be defined a second time. -/
theorem catalog_identity_of_visits :
    (Sample.step 60 "d3" (.define "ops" ⟨" visits\n", "Visits", .number⟩)).outcome Sample.settings
        (Store.empty.run Sample.settings Sample.steps) = .error (.fieldNameTaken "visits") := by
  have hpadded : Text.Around "visits".toList " visits\n" :=
    ⟨[' '], ['\n'], by simp [Text.isBlank], by simp [Text.isBlank], rfl⟩
  have hbare : Text.Around "visits".toList "visits" :=
    ⟨[], [], by simp, by simp, rfl⟩
  have hmade := (catalog_identity Sample.steps_distinct).2.2.2.2 []
    (Sample.step 0 "d1" (.define "ops" ⟨"visits", "Visits", .text⟩)) Sample.steps.tail "ops"
    ⟨"visits", "Visits", .text⟩ _ rfl rfl rfl
  exact hmade.2 _ "ops" ⟨" visits\n", "Visits", .number⟩ rfl ⟨_, hpadded, hbare⟩

end Runs
end EventRewards
