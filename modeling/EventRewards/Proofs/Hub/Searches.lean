import EventRewards.Proofs.Hub.Listings
import EventRewards.Proofs.Text.Folding

/-!
# Searches by name

Definitions and events are searched for by a part of their names, letter case aside.  The part and the
name are put in lower case each on its own.  A part in which each capital sigma ends a word exactly if
it does so in the name is found; another part need not be, since the two forms of a small sigma are not
taken for one another.
-/

namespace EventRewards

/-! ## What a search lists -/

namespace Step

variable {settings : HubSettings} {s : Store} {step : Step} {text : String}

/-- A search for definitions by name lists those in whose names the text is, once both are lowered. -/
theorem lists_definition_iff (asked : step.op = .listDefinitions (some text)) {d : Definition} :
    (∃ ds, step.outcome settings s = .ok (.definitions ds) ∧ d ∈ ds) ↔
      d ∈ s.definitions ∧ Text.containsFolded text d.displayName = true := by
  have houtcome : step.outcome settings s =
      .ok (.definitions (s.listDefinitions (some text))) := by
    rw [outcome, asked]
    rfl
  have hmem : d ∈ s.listDefinitions (some text) ↔
      d ∈ s.definitions ∧ Text.containsFolded text d.displayName = true := by
    rw [Store.listDefinitions, (sortedBy_perm Definition.before _).mem_iff, List.mem_filter,
      Option.all_some]
  rw [houtcome, ← hmem]
  constructor
  · rintro ⟨ds, hds, hd⟩
    rwa [Answer.definitions.inj (Except.ok.inj hds)]
  · intro hd
    exact ⟨_, rfl, hd⟩

/-- So does a search for events, which is not refused if no bounds are given. -/
theorem lists_event_iff
    (asked : step.op = .listEvents { EventQuery.everything with name := some text }) {e : Event} :
    (∃ es, step.outcome settings s = .ok (.events es) ∧ e ∈ es) ↔
      e ∈ s.events ∧ Text.containsFolded text e.name = true := by
  let listed := sortedBy Event.before (s.events.filter fun e => Text.containsFolded text e.name)
  have hlisted : s.listEvents { EventQuery.everything with name := some text } = .ok listed := by
    simp [Store.listEvents, EventQuery.admits, EventQuery.everything, listed]
  have houtcome : step.outcome settings s = .ok (.events listed) := by
    rw [outcome, asked, Operation.perform, Operation.apply, hlisted]
    rfl
  have hmem : e ∈ listed ↔ e ∈ s.events ∧ Text.containsFolded text e.name = true := by
    rw [(sortedBy_perm Event.before _).mem_iff, List.mem_filter]
  rw [houtcome, ← hmem]
  constructor
  · rintro ⟨es, hes, he⟩
    rwa [Answer.events.inj (Except.ok.inj hes)]
  · intro he
    exact ⟨_, rfl, he⟩

end Step

/-! ## Parts of names -/

/-- After any run, a search for a part of a name finds the definitions and the events with the name, if
each capital sigma of the part ends a word there exactly if it does so in the name.  So it is with all
parts that have no capital sigma, and with those that are cut off where words end. -/
theorem searches_find_parts (settings : HubSettings) (steps : List Step) :
    let s := Store.empty.run settings steps
    (∀ d ∈ s.definitions, ∀ before text after : String, d.displayName = before ++ text ++ after →
      Text.KeepsSigmas before.toList text.toList after.toList →
      ∀ step : Step, step.op = .listDefinitions (some text) →
        ∃ ds, step.outcome settings s = .ok (.definitions ds) ∧ d ∈ ds) ∧
    (∀ e ∈ s.events, ∀ before text after : String, e.name = before ++ text ++ after →
      Text.KeepsSigmas before.toList text.toList after.toList →
      ∀ step : Step, step.op = .listEvents { EventQuery.everything with name := some text } →
        ∃ es, step.outcome settings s = .ok (.events es) ∧ e ∈ es) ∧
    ∀ before text after : List Char,
      'Σ' ∉ text ∨ Text.reachesCased before.reverse = false ∧ Text.reachesCased after = false →
      Text.KeepsSigmas before text after := by
  intro s
  refine ⟨?_, ?_, ?_⟩
  · intro d hd before text after hname hkeeps step asked
    have hfound := Text.containsFolded_of_keepsSigmas hkeeps
    exact (Step.lists_definition_iff asked).2 ⟨hd, hname ▸ hfound⟩
  · intro e he before text after hname hkeeps step asked
    have hfound := Text.containsFolded_of_keepsSigmas hkeeps
    exact (Step.lists_event_iff asked).2 ⟨he, hname ▸ hfound⟩
  · rintro before text after (hnone | ⟨hfront, hback⟩)
    · exact Text.keepsSigmas_of_notMem hnone
    · exact Text.keepsSigmas_of_apart hfront hback

namespace Sample

/-- An operation with another name for the definition or the event that it makes. -/
def withName (name : String) : Operation → Operation
  | .define user input => .define user { input with displayName := name }
  | .createEvent user input => .createEvent user { input with name := name }
  | op => op

/-- The small run with one name for all, in which some sigmas end words and others do not. -/
def islandSteps : List Step :=
  steps.map fun s => { s with op := withName "ΝΗΣΟΣ ΣΥΡΟΣ" s.op }

theorem islandSteps_named :
    (∃ d ∈ (Store.empty.run settings islandSteps).definitions, d.displayName = "ΝΗΣΟΣ ΣΥΡΟΣ") ∧
    ∃ e ∈ (Store.empty.run settings islandSteps).events, e.name = "ΝΗΣΟΣ ΣΥΡΟΣ" := by
  decide +kernel

def definitionSearch (text : String) : Step :=
  { firstTry with op := .listDefinitions (some text) }

def eventSearch (text : String) : Step :=
  { firstTry with op := .listEvents { EventQuery.everything with name := some text } }

end Sample

/-- The second word, whose last sigma ends a word with or without the first, is found. -/
theorem searches_find_parts_of_island :
    let s := Store.empty.run Sample.settings Sample.islandSteps
    (∃ ds, (Sample.definitionSearch "ΣΥΡΟΣ").outcome Sample.settings s = .ok (.definitions ds) ∧
      ∃ d ∈ ds, d.displayName = "ΝΗΣΟΣ ΣΥΡΟΣ") ∧
    ∃ es, (Sample.eventSearch "ΣΥΡΟΣ").outcome Sample.settings s = .ok (.events es) ∧
      ∃ e ∈ es, e.name = "ΝΗΣΟΣ ΣΥΡΟΣ" := by
  intro s
  rcases searches_find_parts Sample.settings Sample.islandSteps with ⟨hdefinitions, hevents, hkeeps⟩
  rcases Sample.islandSteps_named with ⟨⟨d, hd, hdname⟩, e, he, hename⟩
  have hname : "ΝΗΣΟΣ ΣΥΡΟΣ" = "ΝΗΣΟΣ " ++ "ΣΥΡΟΣ" ++ "" := by decide +kernel
  have hcut : Text.KeepsSigmas "ΝΗΣΟΣ ".toList "ΣΥΡΟΣ".toList "".toList :=
    hkeeps _ _ _ (.inr (by decide +kernel))
  rcases hdefinitions d hd _ _ _ (hdname.trans hname) hcut (Sample.definitionSearch "ΣΥΡΟΣ") rfl
    with ⟨ds, hds, hmem⟩
  rcases hevents e he _ _ _ (hename.trans hname) hcut (Sample.eventSearch "ΣΥΡΟΣ") rfl with
    ⟨es, hes, hmem'⟩
  exact ⟨⟨ds, hds, d, hmem, hdname⟩, es, hes, e, hmem', hename⟩

/-- Not every part of a name is found: in `ΝΗΣ` the sigma ends a word, in `ΝΗΣΟΣ` the first does not. -/
theorem searches_miss_cut_words :
    let s := Store.empty.run Sample.settings Sample.islandSteps
    (¬∀ d ∈ s.definitions, ∀ before text after : String, d.displayName = before ++ text ++ after →
      ∀ step : Step, step.op = .listDefinitions (some text) →
        ∃ ds, step.outcome Sample.settings s = .ok (.definitions ds) ∧ d ∈ ds) ∧
    ¬∀ e ∈ s.events, ∀ before text after : String, e.name = before ++ text ++ after →
      ∀ step : Step, step.op = .listEvents { EventQuery.everything with name := some text } →
        ∃ es, step.outcome Sample.settings s = .ok (.events es) ∧ e ∈ es := by
  intro s
  rcases Sample.islandSteps_named with ⟨⟨d, hd, hdname⟩, e, he, hename⟩
  have hname : "ΝΗΣΟΣ ΣΥΡΟΣ" = "" ++ "ΝΗΣ" ++ "ΟΣ ΣΥΡΟΣ" := by decide +kernel
  have hmissed : Text.containsFolded "ΝΗΣ" "ΝΗΣΟΣ ΣΥΡΟΣ" = false := by decide +kernel
  constructor
  · intro hall
    have hlisted := hall d hd _ _ _ (hdname.trans hname) (Sample.definitionSearch "ΝΗΣ") rfl
    have hfound := ((Step.lists_definition_iff rfl).1 hlisted).2
    rw [hdname, hmissed] at hfound
    cases hfound
  · intro hall
    have hlisted := hall e he _ _ _ (hename.trans hname) (Sample.eventSearch "ΝΗΣ") rfl
    have hfound := ((Step.lists_event_iff rfl).1 hlisted).2
    rw [hename, hmissed] at hfound
    cases hfound

end EventRewards
