import Mathlib.Data.List.Basic

/-! # The past-time "since" operator over histories

A history is a list of steps, oldest first. `Since start stop history` holds
when some step of the history satisfied `start`, judged against the steps
before it, and no later step satisfied `stop`. It is the shape of every "it
became so at a step of one kind and stays so until a step of another kind"
statement about runs. -/

namespace TendermintRpc

variable {α : Type}

/-- Some step of `history` satisfied `start`, and no later step satisfied
`stop`; each step is judged against the steps before it. -/
def Since (start stop : List α → α → Bool) (history : List α) : Prop :=
  ∃ before step after, history = before ++ step :: after ∧ start before step ∧
    ∀ middle later rest, after = middle ++ later :: rest →
      stop (before ++ step :: middle) later = false

namespace Since

variable {start stop : List α → α → Bool}

theorem not_nil : ¬Since start stop [] := by
  rintro ⟨before, step, after, empty, -⟩
  simp at empty

/-- How one more step changes `Since`: the step starts it, or it held and the
step does not stop it. -/
theorem append_singleton (history : List α) (step : α) :
    Since start stop (history ++ [step]) ↔
      start history step ∨ (Since start stop history ∧ stop history step = false) := by
  constructor
  · rintro ⟨before, started, after, split, starts, unstopped⟩
    rcases List.eq_nil_or_concat after with rfl | ⟨middle, last, rfl⟩
    · obtain ⟨rfl, same⟩ := List.append_inj' split rfl
      obtain rfl : step = started := by simpa using same
      exact .inl starts
    · rw [List.concat_eq_append, ← List.cons_append, ← List.append_assoc] at split
      obtain ⟨rfl, same⟩ := List.append_inj' split rfl
      obtain rfl : step = last := by simpa using same
      refine .inr ⟨⟨before, started, middle, rfl, starts, fun inner later rest shape => ?_⟩, ?_⟩
      · exact unstopped inner later (rest ++ [step]) (by simp [shape])
      · simpa using unstopped middle step [] (by simp)
  · rintro (starts | ⟨⟨before, started, after, rfl, starts, unstopped⟩, continues⟩)
    · refine ⟨history, step, [], rfl, starts, fun middle later rest same => ?_⟩
      simp at same
    · refine ⟨before, started, after ++ [step], by simp, starts, fun middle later rest same => ?_⟩
      rcases List.eq_nil_or_concat rest with rfl | ⟨rest, last, rfl⟩
      · obtain ⟨rfl, same⟩ := List.append_inj' same rfl
        obtain rfl : step = later := by simpa using same
        exact continues
      · rw [List.concat_eq_append, ← List.cons_append, ← List.append_assoc] at same
        obtain ⟨same, -⟩ := List.append_inj' same rfl
        exact unstopped middle later rest same

/-- `Since`, decided from the newest step back. -/
def decideRev (start stop : List α → α → Bool) : List α → Bool
  | [] => false
  | step :: olderRev =>
      start olderRev.reverse step || (decideRev start stop olderRev && !stop olderRev.reverse step)

theorem iff_decideRev (history : List α) :
    Since start stop history ↔ decideRev start stop history.reverse = true := by
  induction history using List.reverseRecOn with
  | nil => simp [not_nil, decideRev]
  | append_singleton history step induction =>
      simp [append_singleton, decideRev, induction]

instance (history : List α) : Decidable (Since start stop history) :=
  decidable_of_iff _ (iff_decideRev history).symm

end Since

end TendermintRpc
