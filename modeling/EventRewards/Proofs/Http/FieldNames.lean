import EventRewards.Proofs.Http.Percent
import EventRewards.Proofs.Http.Refinement
import EventRewards.Proofs.Hub.LogHistory
import EventRewards.Proofs.Text.Trimming

/-!
# Fields in a query for logs

A query for logs gives the fields it is about as one text.  Setting names side by side with commas is
undone when the text is read, with blanks around the names and blank segments between them or not; and
every text is read as if it had been written from the names that are read from it.  A text without a
name asks for all fields, so no name may get lost on the way: a query with one name at least gets the
logs of the fields named and no others.
-/

namespace EventRewards
namespace Http

/-! ## Segments -/

/-- The segments of a text between its commas. -/
def segmentsOf (text : String) : List String :=
  (Text.splitOnChar ',' text.toList).map String.ofList

/-- The names read are what is left of the segments, where anything is. -/
theorem fieldNames_eq (text : String) :
    fieldNames text = ((segmentsOf text).map Text.trim).filter (· ≠ "") := by
  have htrim : Text.trim ∘ String.ofList = String.ofList ∘ Text.trimChars := by
    funext piece
    simp [Text.trim]
  -- whether something is left is asked of characters there and of texts here
  have hempty : (fun name => decide (name ≠ "")) ∘ String.ofList = (!List.isEmpty ·) := by
    funext piece
    cases piece with
    | nil => rfl
    | cons c rest => simp
  let pieces := Text.splitOnChar ',' text.toList
  calc
    fieldNames text = ((pieces.map Text.trimChars).filter (!·.isEmpty)).map String.ofList := rfl
    _ = ((pieces.map Text.trimChars).map String.ofList).filter (· ≠ "") := by
      rw [← hempty, ← List.filter_map]
    _ = ((pieces.map String.ofList).map Text.trim).filter (· ≠ "") := by
      rw [List.map_map, List.map_map, htrim]

theorem single_of_mem_segmentsOf {text segment : String} (h : segment ∈ segmentsOf text) :
    ',' ∉ segment.toList := by
  rcases List.mem_map.1 h with ⟨piece, hpiece, rfl⟩
  rw [String.toList_ofList]
  exact Text.not_mem_of_mem_splitOnChar hpiece

theorem toList_joinWith_comma (segments : List String) :
    (Text.joinWith "," segments).toList = [','].intercalate (segments.map String.toList) := by
  rw [Text.joinWith, String.toList_intercalate]
  rfl

theorem joinWith_segmentsOf (text : String) : Text.joinWith "," (segmentsOf text) = text := by
  have hback : String.toList ∘ String.ofList = id := funext fun _ => String.toList_ofList
  rw [← String.toList_inj, toList_joinWith_comma, segmentsOf, List.map_map, hback, List.map_id]
  exact (Text.splitOnChar_eq_iff.1 rfl).2.2

theorem segmentsOf_joinWith {segments : List String} (given : segments ≠ [])
    (single : ∀ segment ∈ segments, ',' ∉ segment.toList) :
    segmentsOf (Text.joinWith "," segments) = segments := by
  have hsplit : Text.splitOnChar ',' (Text.joinWith "," segments).toList =
      segments.map String.toList := by
    refine Text.splitOnChar_eq_iff.2 ⟨by simpa using given, ?_, (toList_joinWith_comma segments).symm⟩
    simpa using single
  have hback : String.ofList ∘ String.toList = id := funext fun _ => String.ofList_toList
  rw [segmentsOf, hsplit, List.map_map, hback, List.map_id]

/-! ## Writing and reading names -/

/-- Whether a text is one that can be read as the name of a field. -/
structure IsFieldName (name : String) : Prop where
  nonempty : name ≠ ""
  single : ',' ∉ name.toList
  trimmed : Text.trim name = name

/-- Whether segments are names in their order, with blanks around each, and blank segments anywhere
among them. -/
inductive Writes : List String → List String → Prop where
  | nil : Writes [] []
  | blank {names segments : List String} {segment : String}
      (blank : Text.isBlankText segment = true) (rest : Writes names segments) :
      Writes names (segment :: segments)
  | name {names segments : List String} {name segment : String}
      (around : Text.Around name.toList segment) (rest : Writes names segments) :
      Writes (name :: names) (segment :: segments)

variable {names segments : List String}

/-- What is left of segments are the names that they were written from.  The induction is on the
writing: a blank segment leaves nothing, and one with a name leaves the name. -/
theorem Writes.trimmed (h : Writes names segments) (good : ∀ name ∈ names, IsFieldName name) :
    (segments.map Text.trim).filter (· ≠ "") = names := by
  induction h with
  | nil => rfl
  | blank blank _ ih =>
    have hnothing := Text.trim_eq_empty_iff.2 blank
    rw [List.map_cons, hnothing, List.filter_cons_of_neg (by simp), ih good]
  | @name names segments name segment around _ ih =>
    rcases List.forall_mem_cons.1 good with ⟨hname, hnames⟩
    have hleft : Text.trim segment = name := (Text.trim_of_around around).trans hname.trimmed
    rw [List.map_cons, hleft, List.filter_cons_of_pos (by simpa using hname.nonempty), ih hnames]

/-- A comma is no blank, so none comes in with what is put around a name. -/
theorem Writes.single (h : Writes names segments) (good : ∀ name ∈ names, IsFieldName name) :
    ∀ segment ∈ segments, ',' ∉ segment.toList := by
  have hcomma : Text.isBlank ',' ≠ true := by decide
  induction h with
  | nil => exact fun _ h => absurd h List.not_mem_nil
  | blank blank _ ih =>
    refine List.forall_mem_cons.2 ⟨fun hmem => hcomma ?_, ih good⟩
    exact List.all_eq_true.1 blank _ hmem
  | name around _ ih =>
    rcases List.forall_mem_cons.1 good with ⟨hname, hnames⟩
    rcases around with ⟨before, after, hfront, hback, hsegment⟩
    refine List.forall_mem_cons.2 ⟨?_, ih hnames⟩
    rw [hsegment]
    simp only [List.mem_append, not_or]
    exact ⟨⟨fun h => hcomma (hfront _ h), hname.single⟩, fun h => hcomma (hback _ h)⟩

/-- Any segments are written from what is left of them. -/
theorem writes_trimmed (segments : List String) :
    Writes ((segments.map Text.trim).filter (· ≠ "")) segments := by
  induction segments with
  | nil => exact .nil
  | cons segment rest ih =>
    rw [List.map_cons]
    by_cases h : Text.trim segment = ""
    · rw [List.filter_cons_of_neg (by simpa using h)]
      exact .blank (Text.trim_eq_empty_iff.1 h) ih
    · have haround : Text.Around (Text.trim segment).toList segment := by
        rw [Text.trim, String.toList_ofList]
        exact Text.around_trimChars segment
      rw [List.filter_cons_of_pos (by simpa using h)]
      exact .name haround ih

theorem isFieldName_trim {segment : String} (single : ',' ∉ segment.toList)
    (left : Text.trim segment ≠ "") : IsFieldName (Text.trim segment) := by
  refine ⟨left, fun h => single ?_, Text.trim_trim segment⟩
  rcases Text.around_trimChars segment with ⟨before, after, _, _, hsegment⟩
  rw [Text.trim, String.toList_ofList] at h
  rw [hsegment]
  exact List.mem_append_left _ (List.mem_append_right _ h)

/-- Names are read from a text exactly if they can be names at all and the text is written from them. -/
theorem fieldNames_eq_iff {text : String} :
    fieldNames text = names ↔ (∀ name ∈ names, IsFieldName name) ∧
      ∃ segments, Writes names segments ∧ Text.joinWith "," segments = text := by
  constructor
  · rintro rfl
    refine ⟨?_, segmentsOf text, ?_, joinWith_segmentsOf text⟩
    · intro name h
      rw [fieldNames_eq] at h
      rcases List.mem_filter.1 h with ⟨hname, hleft⟩
      rcases List.mem_map.1 hname with ⟨segment, hsegment, rfl⟩
      exact isFieldName_trim (single_of_mem_segmentsOf hsegment) (by simpa using hleft)
    · rw [fieldNames_eq]
      exact writes_trimmed _
  · rintro ⟨hgood, segments, hwrites, rfl⟩
    by_cases hsome : segments = []
    · -- no segments are written as the empty text, from which nothing is read
      subst hsome
      cases hwrites
      rfl
    · rw [fieldNames_eq, segmentsOf_joinWith hsome (hwrites.single hgood), hwrites.trimmed hgood]

/-! ## Asking for fields -/

/-- Whether a request asks for logs with nothing but a text that names fields. -/
structure Request.NamesFields (r : Request) (text : String) : Prop where
  target : r.Targets "GET" .logs
  query : queryDocument r.query = .obj [("fieldNames", .str text)]

/-- The request that asks for logs with a text that names fields. -/
def Request.forFields (text : String) : Request where
  method := "GET"
  target := String.ofList ("/loggings?fieldNames=".toList ++ escape text)
  headers := []
  body := none

/-- Nothing in the target starts a fragment, and its query starts behind the path. -/
theorem Request.location_forFields (text : String) :
    (forFields text).location = "/loggings".toList ++ '?' :: ("fieldNames=".toList ++ escape text) := by
  have hfixed : ∀ c ∈ "/loggings?fieldNames=".toList, decide (c ≠ '#') = true :=
    List.all_eq_true.1 rfl
  have hescaped : ∀ c ∈ escape text, decide (c ≠ '#') = true := by
    intro c hc
    exact decide_eq_true (ne_of_mem_escape (by decide) (by decide) hc)
  have hpass := List.forall_mem_append.2 ⟨hfixed, hescaped⟩
  rw [location, forFields, String.toList_ofList, List.takeWhile_eq_self_iff.2 hpass]
  rfl

theorem Request.forFields_namesFields (text : String) : (forFields text).NamesFields text := by
  have hsplit : Text.splitFirst '?' (forFields text).location =
      ("/loggings".toList, some ("fieldNames=".toList ++ escape text)) := by
    rw [location_forFields]
    exact Text.splitFirst_append (by decide) _
  refine ⟨⟨rfl, trivial, ?_⟩, ?_⟩
  · rw [path, hsplit]
    rfl
  · have hname : formText "fieldNames".toList = "fieldNames" := by decide
    calc
      queryDocument (forFields text).query =
          queryDocument ("fieldNames".toList ++ '=' :: escape text) := by
        rw [query, hsplit]
        rfl
      _ = .obj [(formText "fieldNames".toList, .str text)] := queryDocument_escape (by decide) text
      _ = .obj [("fieldNames", .str text)] := by rw [hname]

theorem understand_namesFields {r : Request} {text : String} (h : r.NamesFields text) :
    understand r .logs .get =
      .ok (.perform (.queryLogs ⟨none, fieldNames text, none, none⟩) 200) := by
  simp only [understand, query, readQuery, h.query]
  rfl

theorem admits_fields {names : List String} (given : names ≠ []) (l : Log) :
    (⟨none, names, none, none⟩ : LogQuery).admits l = decide (l.fieldName ∈ names) := by
  rw [Bool.eq_iff_iff, LogQuery.admits_iff, decide_eq_true_eq]
  constructor
  · intro h
    exact h.fieldName given
  · intro h
    exact ⟨by simp, fun _ => h, by simp, by simp⟩

/-- A request that names fields is answered with their logs and leaves the store as it is. -/
theorem handle_namesFields {r : Request} {text : String} (h : r.NamesFields text)
    (given : fieldNames text ≠ []) (settings : Settings) (now : Instant) (fresh : FreshIds)
    (s : Store) :
    handle settings now fresh r s =
      (⟨200, .json (.arr ((s.logs.filter (·.fieldName ∈ fieldNames text)).map Log.toJson)),
        allowedOrigin settings⟩, s) := by
  let query : LogQuery := ⟨none, fieldNames text, none, none⟩
  -- with no name given the query would admit the logs of all fields
  have hlogs : s.queryLogs query = s.logs.filter (·.fieldName ∈ fieldNames text) :=
    List.filter_congr fun l _ => admits_fields given l
  have hdemand : r.demand = .perform (.queryLogs query) 200 :=
    demand_of_target h.target (by decide) (by decide) rfl (understand_namesFields h)
  have hperform : (Operation.queryLogs query).perform (hubSettings settings) now fresh s =
      (.ok (.logs (s.queryLogs query)), s) := rfl
  have hhead : r.method ≠ "HEAD" := by
    rw [h.target.method]
    decide
  rw [handle, hdemand, meet_perform_of_ok hperform, hlogs]
  simp only [if_neg hhead]
  rfl

/-- Names of fields that are set side by side with commas, with blanks around each and blank segments
anywhere among them, are read in their order and no others with them.  From any text only such names
are read.  Any text can be sent; and when one name at least is read from it, what comes back are the
logs of the fields named, in the order in which they were recorded, whatever requests came before. -/
theorem field_names_read_as_written :
    (∀ names segments : List String, (∀ name ∈ names, IsFieldName name) → Writes names segments →
      fieldNames (Text.joinWith "," segments) = names) ∧
    ∀ text : String,
      (∀ name ∈ fieldNames text, IsFieldName name) ∧
      (Request.forFields text).NamesFields text ∧
      ∀ r : Request, r.NamesFields text → fieldNames text ≠ [] →
        ∀ (settings : Settings) (now : Instant) (fresh : FreshIds) (s : Store)
          (arrivals : List Arrival),
          let left := serve settings s arrivals
          let recorded :=
            s.logs ++ s.recorded (hubSettings settings) (arrivals.filterMap Arrival.step?)
          handle settings now fresh r left =
            (⟨200, .json (.arr ((recorded.filter (·.fieldName ∈ fieldNames text)).map Log.toJson)),
              allowedOrigin settings⟩, left) := by
  refine ⟨?_, fun text => ⟨(fieldNames_eq_iff.1 rfl).1, Request.forFields_namesFields text, ?_⟩⟩
  · intro names segments hgood hwrites
    exact fieldNames_eq_iff.2 ⟨hgood, segments, hwrites, rfl⟩
  · intro r hnames hsome settings now fresh s arrivals left recorded
    have hlogs : left.logs = recorded := by
      calc
        left.logs = (s.run (hubSettings settings) (arrivals.filterMap Arrival.step?)).logs :=
          congrArg Store.logs (serve_eq_run settings s arrivals)
        _ = recorded := Store.logs_run_eq _
    rw [handle_namesFields hnames hsome settings now fresh left, hlogs]

/-- Two names are read from a text in which blanks stand around them and between them, and a request
that gives it gets Ann's visit from the small run and none of the clicks of Bob. -/
theorem field_names_read_as_written_of_visits :
    let run := Store.empty.run EventRewards.Sample.settings EventRewards.Sample.steps
    fieldNames " visits , ,shares" = ["visits", "shares"] ∧
    ∃ l, handle Sample.settings (EventRewards.Sample.second 60) (fun _ => "n1")
        ⟨"GET", "/loggings?fieldNames=+visits+,%20,shares", [], none⟩ run =
          (⟨200, .json (.arr [Log.toJson l]), some "*"⟩, run) ∧
      l.fieldName = "visits" ∧ l.userId = "ann" := by
  intro run
  have hgood : ∀ name ∈ ["visits", "shares"], IsFieldName name := by
    simp only [List.forall_mem_cons, List.not_mem_nil, false_imp_iff, implies_true, and_true]
    exact ⟨⟨by decide, by decide, by decide⟩, ⟨by decide, by decide, by decide⟩⟩
  have hvisits : Text.Around "visits".toList " visits " :=
    ⟨[' '], [' '], List.forall_mem_singleton.2 rfl, List.forall_mem_singleton.2 rfl, rfl⟩
  have hshares : Text.Around "shares".toList "shares" := ⟨[], [], by simp, by simp, rfl⟩
  have hwrites : Writes ["visits", "shares"] [" visits ", " ", "shares"] :=
    .name hvisits (.blank (by decide) (.name hshares .nil))
  have hread : fieldNames " visits , ,shares" = ["visits", "shares"] :=
    field_names_read_as_written.1 _ _ hgood hwrites
  have hrequest : Request.NamesFields
      ⟨"GET", "/loggings?fieldNames=+visits+,%20,shares", [], none⟩ " visits , ,shares" :=
    ⟨⟨rfl, trivial, by decide⟩, rfl⟩
  have hanswer := (field_names_read_as_written.2 " visits , ,shares").2.2 _ hrequest
    (hread ▸ List.cons_ne_nil _ _) Sample.settings (EventRewards.Sample.second 60) (fun _ => "n1")
    run []
  have hfound : ∃ l : Log, (run.logs ++ []).filter (·.fieldName ∈ ["visits", "shares"]) = [l] ∧
      l.fieldName = "visits" ∧ l.userId = "ann" :=
    ⟨_, rfl, rfl, rfl⟩
  rcases hfound with ⟨l, hl, hfield, huser⟩
  rw [hread] at hanswer
  refine ⟨hread, l, hanswer.trans ?_, hfield, huser⟩
  exact congrArg (fun logs => (Response.mk 200 (.json (.arr (logs.map Log.toJson))) (some "*"), run)) hl

end Http
end EventRewards
