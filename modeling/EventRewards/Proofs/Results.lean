import Mathlib.Data.List.Basic
import Mathlib.Data.List.Forall2

/-!
# Results of steps in a row

When steps that may fail end well: each of them does, and hands its result to the next, or is one of
many that are alike.
-/

namespace EventRewards

variable {ε α β : Type}

/-! ## One after the other -/

theorem bind_eq_ok {x : Except ε α} {f : α → Except ε β} {b : β} :
    (x >>= f) = .ok b ↔ ∃ a, x = .ok a ∧ f a = .ok b := by
  cases x with
  | error fault => simp [bind, Except.bind]
  | ok a => simp [bind, Except.bind]

theorem map_eq_ok {x : Except ε α} {f : α → β} {b : β} :
    x.map f = .ok b ↔ ∃ a, x = .ok a ∧ f a = b := by
  cases x with
  | error fault => simp [Except.map]
  | ok a => simp [Except.map]

theorem bind_eq_error {x : Except ε α} {f : α → Except ε β} {fault : ε} :
    (x >>= f) = .error fault ↔ x = .error fault ∨ ∃ a, x = .ok a ∧ f a = .error fault := by
  cases x with
  | error fault' => simp [bind, Except.bind]
  | ok a => simp [bind, Except.bind]

theorem pure_eq_ok {a b : α} : (pure a : Except ε α) = .ok b ↔ a = b := by
  simp [pure, Except.pure]

/-- A test that refuses on a condition passes where the condition fails. -/
theorem refuse_eq_ok {p : Prop} [Decidable p] {fault : ε} {x : Except ε α} {a : α} :
    (if p then .error fault else x) = .ok a ↔ ¬p ∧ x = .ok a := by
  by_cases h : p
  · simp [h]
  · simp [h]

theorem toOption_eq_some {x : Except ε α} {a : α} : x.toOption = some a ↔ x = .ok a := by
  cases x with
  | error fault => simp [Except.toOption]
  | ok a' => simp [Except.toOption]

/-! ## All of a list -/

/-- A step taken for each member of a list gives what it gives for each. -/
theorem mapM_eq_some {f : α → Option β} {l : List α} {l' : List β} :
    l.mapM f = some l' ↔ l.map f = l'.map some := by
  induction l generalizing l' with
  | nil =>
    cases l' with
    | nil => simp
    | cons b others => simp
  | cons a rest ih =>
    cases l' with
    | nil => simp [List.mapM_cons, Option.bind_eq_some_iff]
    | cons b others => simp [List.mapM_cons, Option.bind_eq_some_iff, ih]

theorem map_map_eq {γ : Type} {f : β → γ} {g : α → β} {ok : α → γ} {l : List α}
    (each : ∀ a ∈ l, f (g a) = ok a) : (l.map g).map f = l.map ok := by
  rw [List.map_map]
  exact List.map_congr_left each

theorem exists_of_map_eq {γ : Type} {f : α → γ} {ok : β → γ} {l : List α} {l' : List β}
    (h : l.map f = l'.map ok) {b : β} (hb : b ∈ l') : ∃ a ∈ l, f a = ok b := by
  have hmem : ok b ∈ l.map f := h ▸ List.mem_map_of_mem hb
  exact List.mem_map.1 hmem

theorem exists_of_forall₂ {R : α → β → Prop} {l : List α} {l' : List β} (h : List.Forall₂ R l l')
    {a : α} (ha : a ∈ l) : ∃ b ∈ l', R a b := by
  induction h with
  | nil => cases ha
  | cons hfirst _ ih =>
    rcases List.mem_cons.1 ha with rfl | hrest
    · exact ⟨_, List.mem_cons_self, hfirst⟩
    · rcases ih hrest with ⟨b, hb, hab⟩
      exact ⟨b, List.mem_cons_of_mem _ hb, hab⟩

theorem map_eq_map_iff_forall₂ {γ : Type} {f : α → γ} {ok : β → γ} {l : List α} {l' : List β} :
    l.map f = l'.map ok ↔ List.Forall₂ (fun a b => f a = ok b) l l' := by
  rw [← List.forall₂_eq_eq_eq, List.forall₂_map_left_iff, List.forall₂_map_right_iff]

/-- Two relations that say the same of each member of a list say the same of the whole list. -/
theorem forall₂_congr_left {R S : α → β → Prop} {l : List α} {l' : List β}
    (same : ∀ a ∈ l, ∀ b, R a b ↔ S a b) : List.Forall₂ R l l' ↔ List.Forall₂ S l l' := by
  have hmem {R S : α → β → Prop} (imp : ∀ a ∈ l, ∀ b, R a b → S a b) (h : List.Forall₂ R l l') :
      List.Forall₂ S l l' :=
    ((List.forall₂_and_left l l').2 ⟨fun _ ha => ha, h⟩).imp fun a b h => imp a h.1 b h.2
  exact ⟨hmem fun a ha b => (same a ha b).1, hmem fun a ha b => (same a ha b).2⟩

end EventRewards
