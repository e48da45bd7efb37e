import EventRewards.Proofs.Condition.Canonical
import EventRewards.Proofs.Condition.Checks
import EventRewards.Proofs.Condition.Traces
import EventRewards.Scenario.Judgement

/-!
# What judgements tell

The condition of a scenario is a document, and is decoded once for the report and once for the verdict.
Either both succeed, and then the judgement tells what a check, a verdict and an explanation of the
condition tell; or neither does, and then all that is told is that the document is no condition.  The
two are told apart by the paths of the errors, since no flaw of a condition has the empty path.
-/

namespace EventRewards
namespace Scenario

variable {s : Scenario}

/-- A condition is judged by its check, its verdict and its explanation. -/
theorem judge_of_decode {t : Tree} (decoded : Tree.decode s.condition = .ok t) :
    s.judge = ⟨t.check s.definitions, some (t.evaluate s.definitions s.logs),
      some (t.explain s.definitions s.logs)⟩ := by
  simp [judge, Tree.checkJson, decoded, Except.toOption]

theorem judge_of_refused {e : DecodeError} (refused : Tree.decode s.condition = .error e) :
    s.judge = ⟨.flaw .document (.notATree e.message), none, none⟩ := by
  simp [judge, Tree.checkJson, refused, Except.toOption]

/-- Each scenario is judged in one of the two ways. -/
theorem judge_cases (s : Scenario) :
    (∃ t : Tree, s.judge = ⟨t.check s.definitions, some (t.evaluate s.definitions s.logs),
      some (t.explain s.definitions s.logs)⟩) ∨
    ∃ reason, s.judge = ⟨.flaw .document (.notATree reason), none, none⟩ := by
  cases hdecoded : Tree.decode s.condition with
  | ok t => exact .inl ⟨t, judge_of_decode hdecoded⟩
  | error e => exact .inr ⟨e.message, judge_of_refused hdecoded⟩

/-- There is no verdict just where some error is told of the document as a whole. -/
theorem eligible_eq_none_iff :
    s.judge.eligible = none ↔ ∃ f ∈ s.judge.validation.errors, f.place.text = "" := by
  rcases s.judge_cases with ⟨t, hjudge⟩ | ⟨reason, hjudge⟩
  · rw [hjudge]
    refine iff_of_false nofun ?_
    rintro ⟨f, hf, hpath⟩
    rcases t.check_placed s.definitions f hf with ⟨way, part, hplace⟩
    rw [hplace] at hpath
    exact Place.text_part_ne_empty way part hpath
  · rw [hjudge]
    exact iff_of_true rfl ⟨_, List.mem_singleton_self _, rfl⟩

end Scenario

/-- The judgement of a scenario whose condition is the document of a plain condition, in canonical
form or not, is what a check reports of the condition, its verdict and its explanation.  Whatever
the condition of a scenario is, verdict and explanation are given together; they are left out just
where the report consists of one error with the empty path, so that a valid report comes with a
verdict. -/
theorem judgements_agree_with_checks :
    (∀ t : Tree, t.Plain → ∀ document, document = t.toJson ∨ document = t.toJson.canonical →
      ∀ definitions logs, (Scenario.mk definitions document logs).judge =
        ⟨t.check definitions, some (t.evaluate definitions logs),
          some (t.explain definitions logs)⟩) ∧
    ∀ s : Scenario,
      (s.judge.eligible = none ↔ s.judge.explanation = none) ∧
      (s.judge.eligible = none ↔ ∃ f, s.judge.validation.errors = [f] ∧ f.place.text = "") ∧
      (s.judge.eligible = none → s.judge.validation.warnings = []) ∧
      (s.judge.validation.isValid = true → ∃ eligible explanation,
        s.judge.eligible = some eligible ∧ s.judge.explanation = some explanation) := by
  constructor
  · intro t plain document written definitions logs
    apply Scenario.judge_of_decode
    rcases written with rfl | rfl
    · exact Tree.decode_toJson plain
    · exact Tree.decode_canonical plain
  · intro s
    have hpath : (∃ f, s.judge.validation.errors = [f] ∧ f.place.text = "") →
        s.judge.eligible = none := by
      rintro ⟨f, herrors, hempty⟩
      refine Scenario.eligible_eq_none_iff.2 ⟨f, ?_, hempty⟩
      rw [herrors]
      exact List.mem_singleton_self f
    rcases s.judge_cases with ⟨t, hjudge⟩ | ⟨reason, hjudge⟩
    · rw [hjudge] at hpath ⊢
      exact ⟨iff_of_false nofun nofun, ⟨nofun, hpath⟩, nofun, fun _ => ⟨_, _, rfl, rfl⟩⟩
    · rw [hjudge]
      exact ⟨iff_of_true rfl rfl, iff_of_true rfl ⟨_, rfl, rfl⟩, fun _ => rfl, nofun⟩

namespace Sample

theorem roaming_plain : roaming.Plain := by
  intro l hl
  have hleaf : l = ⟨"d1", .neq, .text "home"⟩ ∨ l = ⟨"d9", .exists, .text ""⟩ ∨
      l = ⟨"d1", .eq, .text "shop"⟩ := by
    simpa [roaming, Tree.root, Node.leaves, Node.leavesAll] using hl
  rcases hleaf with rfl | rfl | rfl
  · exact .text
  · exact .text
  · exact .text

end Sample

/-- A condition is judged from its canonical document, and a text that is no condition gets one error
and no verdict. -/
theorem judgements_agree_with_checks_of_roaming :
    (Scenario.mk [Sample.visits] Sample.roaming.toJson.canonical []).judge =
      ⟨Sample.roaming.check [Sample.visits], some (Sample.roaming.evaluate [Sample.visits] []),
        some (Sample.roaming.explain [Sample.visits] [])⟩ ∧
    (∃ f, (Scenario.mk [] (.str "no condition") []).judge.validation.errors = [f] ∧
      f.place.text = "") ∧
    (Scenario.mk [] (.str "no condition") []).judge.validation.warnings = [] ∧
    ∃ eligible explanation,
      (Scenario.mk [Sample.visits] Sample.elsewhere.toJson []).judge.eligible = some eligible ∧
      (Scenario.mk [Sample.visits] Sample.elsewhere.toJson []).judge.explanation =
        some explanation := by
  have hnone : (Scenario.mk [] (.str "no condition") []).judge.eligible = none := rfl
  have hvalid : (Scenario.mk [Sample.visits] Sample.elsewhere.toJson []).judge.validation.isValid =
      true := by
    decide +kernel
  rcases judgements_agree_with_checks with ⟨hconditions, hscenarios⟩
  exact ⟨hconditions _ Sample.roaming_plain _ (.inr rfl) _ _, (hscenarios _).2.1.1 hnone,
    (hscenarios _).2.2.1 hnone, (hscenarios _).2.2.2 hvalid⟩

end EventRewards
