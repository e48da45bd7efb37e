import EventRewards.Http.Resource
import EventRewards.Proofs.Text.Splitting

/-!
# Paths of resources

Each resource has one path, with its id, if it has one, as a segment of it.  A path leads to a
resource exactly when it is the resource's own, so that no two resources share a path and none is left
out.
-/

namespace EventRewards
namespace Http

/-! ## Resources and their paths -/

namespace Resource

/-- The segments of a resource's path. -/
def segments : Resource → List (List Char)
  | .health => ["health".toList]
  | .conditions => ["conditions".toList]
  | .conditionCheck => ["conditions".toList, "validate".toList]
  | .logs => ["loggings".toList]
  | .events => ["events".toList]
  | .event id => ["events".toList, id]
  | .eventRewards id => ["events".toList, id, "rewards".toList]
  | .eventRequests id => ["events".toList, id, "reward-requests".toList]
  | .requests => ["reward-requests".toList]
  | .request id => ["reward-requests".toList, id]
  | .approval id => ["reward-requests".toList, id, "approve".toList]
  | .rejection id => ["reward-requests".toList, id, "reject".toList]

/-- The path of a resource: its segments, each after a slash. -/
def fullPath (resource : Resource) : List Char :=
  resource.segments.flatMap ('/' :: ·)

/-- Whether the id of a resource can stand in its path: it is one segment, and not an empty one at the
end. -/
def Fits : Resource → Prop
  | .event id | .request id => id ≠ [] ∧ '/' ∉ id
  | .eventRewards id | .eventRequests id | .approval id | .rejection id => '/' ∉ id
  | _ => True

theorem eq_toList_of_ofList {cs : List Char} {s : String} (h : String.ofList cs = s) :
    cs = s.toList := by
  rw [← h, String.toList_ofList]

theorem ofSegments?_segments {resource : Resource} (fits : resource.Fits) :
    ofSegments? resource.segments = some resource := by
  cases resource with
  | event id => simp [ofSegments?, segments, fits.1]
  | request id => simp [ofSegments?, segments, fits.1]
  | _ => rfl

theorem segments_eq_of_ofSegments? {pieces : List (List Char)} {resource : Resource}
    (h : ofSegments? pieces = some resource) : resource.segments = pieces := by
  match pieces with
  | [] => cases h
  | [a] =>
    simp only [ofSegments?] at h
    split at h
    case h_6 => cases h
    all_goals
      next ha =>
        cases h
        rw [eq_toList_of_ofList ha]
        rfl
  | [a, b] =>
    simp only [ofSegments?] at h
    split at h
    case h_1 ha =>
      by_cases hb : b = "validate".toList
      · rw [if_pos hb] at h
        cases h
        rw [eq_toList_of_ofList ha, hb]
        rfl
      · rw [if_neg hb] at h
        cases h
    case h_4 => cases h
    -- what comes second is an id, and not empty
    all_goals
      next ha =>
        cases hb : b.isEmpty with
        | true => simp [hb] at h
        | false =>
          simp only [hb, Bool.false_eq_true, if_false] at h
          cases h
          rw [eq_toList_of_ofList ha]
          rfl
  | [a, b, c] =>
    simp only [ofSegments?] at h
    split at h
    case h_5 => cases h
    all_goals
      next ha hc =>
        cases h
        rw [eq_toList_of_ofList ha, eq_toList_of_ofList hc]
        rfl
  | _ :: _ :: _ :: _ :: _ => cases h

theorem segments_ne_nil (resource : Resource) : resource.segments ≠ [] := by
  cases resource with
  | _ => exact List.cons_ne_nil _ _

/-- A slash before each segment is one between neighbours and one before them all. -/
theorem fullPath_eq (resource : Resource) :
    resource.fullPath = '/' :: ['/'].intercalate resource.segments := by
  have hjoined (piece : List Char) (pieces : List (List Char)) :
      (piece :: pieces).flatMap ('/' :: ·) = '/' :: ['/'].intercalate (piece :: pieces) := by
    induction pieces generalizing piece with
    | nil => simp
    | cons next rest ih =>
      rw [List.intercalate_cons_cons, List.flatMap_cons, ih next]
      simp
  rw [fullPath]
  cases hsegments : resource.segments with
  | nil => exact absurd hsegments resource.segments_ne_nil
  | cons piece pieces => exact hjoined piece pieces

theorem not_mem_of_mem_segments {resource : Resource} (fits : resource.Fits) {piece : List Char}
    (h : piece ∈ resource.segments) : '/' ∉ piece := by
  cases resource with
  | event id | request id =>
    rcases List.mem_cons.1 h with rfl | hid
    · decide
    · exact List.mem_singleton.1 hid ▸ fits.2
  | eventRewards id | eventRequests id | approval id | rejection id =>
    rcases List.mem_cons.1 h with rfl | hrest
    · decide
    · rcases List.mem_cons.1 hrest with rfl | hlast
      · exact fits
      · exact List.mem_singleton.1 hlast ▸ (by decide)
  | conditionCheck =>
    rcases List.mem_cons.1 h with rfl | hlast
    · decide
    · exact List.mem_singleton.1 hlast ▸ (by decide)
  | health | conditions | logs | events | requests => exact List.mem_singleton.1 h ▸ (by decide)

theorem fits_of_segments {resource : Resource} (single : ∀ piece ∈ resource.segments, '/' ∉ piece)
    (h : ofSegments? resource.segments = some resource) : resource.Fits := by
  cases resource with
  | event id | request id =>
    refine ⟨?_, single id (by simp [segments])⟩
    rintro rfl
    cases h
  | eventRewards id | eventRequests id | approval id | rejection id =>
    exact single id (by simp [segments])
  | _ => trivial

/-- A path leads to a resource exactly when it is the path of the resource. -/
theorem ofPath?_eq_some {cs : List Char} {resource : Resource} :
    ofPath? cs = some resource ↔ resource.Fits ∧ resource.fullPath = cs := by
  constructor
  · intro h
    unfold ofPath? at h
    split at h
    case h_2 => cases h
    next rest =>
      have hsegments := segments_eq_of_ofSegments? h
      rcases Text.splitOnChar_eq_iff.1 hsegments.symm with ⟨_, hsingle, hjoined⟩
      rw [← hsegments] at h
      refine ⟨fits_of_segments hsingle h, ?_⟩
      rw [fullPath_eq, hjoined]
  · rintro ⟨hfits, rfl⟩
    have hsplit : Text.splitOnChar '/' (['/'].intercalate resource.segments) = resource.segments :=
      Text.splitOnChar_eq_iff.2
        ⟨resource.segments_ne_nil, fun _ => not_mem_of_mem_segments hfits, rfl⟩
    calc
      ofPath? resource.fullPath =
          ofSegments? (Text.splitOnChar '/' (['/'].intercalate resource.segments)) := by
        rw [fullPath_eq, ofPath?]
      _ = ofSegments? resource.segments := congrArg ofSegments? hsplit
      _ = some resource := ofSegments?_segments hfits

end Resource
end Http
end EventRewards
