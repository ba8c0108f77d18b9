import Mathlib.Data.List.Forall2

/-! # Steps that may fail

Steps in a row have a result if each of them has one, and a list is traversed if each of its members
gives a result. So two traversals are compared by comparing them at the members of the list.
-/

namespace Keyset

section Steps

variable {ε δ α β : Type}

/-- Two steps in a row that give a result give one each. -/
theorem of_bind {first : Except ε α} {next : α → Except ε β} {result : β}
    (done : (first >>= next) = .ok result) :
    ∃ found, first = .ok found ∧ next found = .ok result := by
  cases first with
  | error cause => cases done
  | ok found => exact ⟨found, rfl, done⟩

/-- A step with its result changed gives a result if the step does. -/
theorem of_map {step : Except ε α} {change : α → β} {result : β}
    (done : step.map change = .ok result) : ∃ found, step = .ok found ∧ change found = result := by
  cases step with
  | error cause => cases done
  | ok found => exact ⟨found, rfl, Except.ok.inj done⟩

/-- A step with its error changed gives the results of the step. -/
theorem of_mapError {step : Except ε α} {change : ε → δ} {result : α}
    (done : step.mapError change = .ok result) : step = .ok result := by
  cases step with
  | error cause => cases done
  | ok found => exact congrArg Except.ok (Except.ok.inj done)

theorem exists_map_iff {step : Except ε α} {change : α → β} :
    (∃ result, step.map change = .ok result) ↔ ∃ found, step = .ok found := by
  constructor
  · rintro ⟨_, done⟩
    obtain ⟨found, here, _⟩ := of_map done
    exact ⟨found, here⟩
  · rintro ⟨found, here⟩
    rw [here]
    exact ⟨_, rfl⟩

end Steps

section Lists

variable {ε α β γ : Type} {step : α → Except ε β} {items : List α} {results : List β}

theorem mapM_eq_ok_map {result : α → β} (each : ∀ item ∈ items, step item = .ok (result item)) :
    items.mapM step = .ok (items.map result) := by
  induction items with
  | nil => rfl
  | cons item rest ih =>
      obtain ⟨here, later⟩ := List.forall_mem_cons.mp each
      rw [List.mapM_cons, here, ih later]
      rfl

/-- Where the results of the members are changed, so are the results of the list. -/
theorem mapM_eq_map {other : α → Except ε γ} {change : β → γ}
    (each : ∀ item ∈ items, other item = (step item).map change) :
    items.mapM other = (items.mapM step).map (List.map change) := by
  induction items with
  | nil => rfl
  | cons item rest ih =>
      obtain ⟨here, later⟩ := List.forall_mem_cons.mp each
      rw [List.mapM_cons, List.mapM_cons, here, ih later]
      cases step item with
      | error cause => rfl
      | ok result =>
          cases rest.mapM step with
          | error cause => rfl
          | ok results => rfl

/-- The list is traversed with its members changed, if that makes no difference to any of them. -/
theorem mapM_map_eq {change : α → α} (same : ∀ item ∈ items, step (change item) = step item) :
    (items.map change).mapM step = items.mapM step := by
  induction items with
  | nil => rfl
  | cons item rest ih =>
      obtain ⟨here, later⟩ := List.forall_mem_cons.mp same
      rw [List.map_cons, List.mapM_cons, List.mapM_cons, here, ih later]

theorem exists_mapM_iff :
    (∃ results, items.mapM step = .ok results) ↔
      ∀ item ∈ items, ∃ result, step item = .ok result := by
  induction items with
  | nil => exact iff_of_true ⟨[], rfl⟩ fun _ absent => absurd absent List.not_mem_nil
  | cons item rest ih =>
      rw [List.forall_mem_cons, ← ih, List.mapM_cons]
      constructor
      · rintro ⟨_, done⟩
        obtain ⟨result, here, done⟩ := of_bind done
        obtain ⟨results, later, _⟩ := of_bind done
        exact ⟨⟨result, here⟩, results, later⟩
      · rintro ⟨⟨result, here⟩, results, later⟩
        rw [here, later]
        exact ⟨result :: results, rfl⟩

theorem forall₂_of_mapM (done : items.mapM step = .ok results) :
    List.Forall₂ (fun item result => step item = .ok result) items results := by
  induction items generalizing results with
  | nil =>
      obtain rfl := Except.ok.inj done
      exact .nil
  | cons item rest ih =>
      rw [List.mapM_cons] at done
      obtain ⟨result, here, done⟩ := of_bind done
      obtain ⟨others, later, done⟩ := of_bind done
      obtain rfl := Except.ok.inj done
      exact .cons here (ih later)

/-- What holds of every member and its result. -/
theorem forall₂_of_mapM_mem {relates : α → β → Prop} (done : items.mapM step = .ok results)
    (each : ∀ item ∈ items, ∀ result, step item = .ok result → relates item result) :
    List.Forall₂ relates items results := by
  have found := forall₂_of_mapM done
  clear done
  induction found with
  | nil => exact .nil
  | cons here _ ih =>
      exact .cons (each _ List.mem_cons_self _ here)
        (ih fun item inRest => each item (List.mem_cons_of_mem _ inRest))

end Lists

end Keyset
