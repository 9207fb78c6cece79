import Mathlib.Data.List.Induction

namespace ProofDesk

variable {σ ε α : Type}

def trace (step : σ → ε → σ) (s : σ) : List ε → List (σ × ε)
  | [] => []
  | e :: events => (s, e) :: trace step (step s e) events

/-- The value is the last one of the list with the property. -/
def LastWith (P : α → Prop) (xs : List α) (x : α) : Prop :=
  ∃ before after, xs = before ++ x :: after ∧ P x ∧ ∀ y ∈ after, ¬P y

theorem trace_append (step : σ → ε → σ) (s : σ) (first second : List ε) :
    trace step s (first ++ second) =
      trace step s first ++ trace step (first.foldl step s) second := by
  induction first generalizing s with
  | nil => rfl
  | cons e first ih => simp [trace, ih]

theorem trace_concat (step : σ → ε → σ) (s : σ) (events : List ε) (e : ε) :
    trace step s (events ++ [e]) = trace step s events ++ [(events.foldl step s, e)] :=
  trace_append step s events [e]

/-- An event of a trace, with the events before it that lead to the state that it meets. -/
theorem exists_of_trace_eq_append_cons {step : σ → ε → σ} {s : σ} {events : List ε}
    {before after : List (σ × ε)} {e : σ × ε} (h : trace step s events = before ++ e :: after) :
    ∃ first, before = trace step s first ∧ e.1 = first.foldl step s := by
  induction events generalizing s before with
  | nil => simp [trace] at h
  | cons x events ih =>
    rw [trace] at h
    cases before with
    | nil => exact ⟨[], rfl, by rw [← (List.cons.inj h).1]; rfl⟩
    | cons b before =>
      obtain ⟨rfl, hrest⟩ := List.cons.inj h
      obtain ⟨first, rfl, hstate⟩ := ih hrest
      exact ⟨x :: first, rfl, hstate⟩

section Last

variable {P : α → Prop} {xs : List α} {x y : α}

/-- A list with one more value at its end is cut at that value or before it. -/
theorem concat_eq_append_cons {before after : List α} (h : xs ++ [x] = before ++ y :: after) :
    (xs = before ∧ x = y ∧ after = []) ∨ ∃ mid, xs = before ++ y :: mid ∧ after = mid ++ [x] := by
  rcases List.eq_nil_or_concat after with rfl | ⟨mid, last, rfl⟩
  · obtain ⟨hxs, hx⟩ := List.append_inj' h rfl
    exact Or.inl ⟨hxs, List.singleton_inj.mp hx, rfl⟩
  · have h' : xs ++ [x] = (before ++ y :: mid) ++ [last] := by simpa using h
    obtain ⟨hxs, hx⟩ := List.append_inj' h' rfl
    obtain rfl := List.singleton_inj.mp hx
    exact Or.inr ⟨mid, hxs, by simp⟩

theorem LastWith.holds (h : LastWith P xs x) : P x :=
  let ⟨_, _, _, hx, _⟩ := h
  hx

theorem LastWith.mem (h : LastWith P xs x) : x ∈ xs := by
  obtain ⟨before, after, rfl, -⟩ := h
  simp

theorem LastWith.append_left (h : LastWith P xs x) (ys : List α) : LastWith P (ys ++ xs) x := by
  obtain ⟨before, after, rfl, hx, hafter⟩ := h
  exact ⟨ys ++ before, after, by simp, hx, hafter⟩

theorem lastWith_concat_of_pos (hx : P x) : LastWith P (xs ++ [x]) y ↔ y = x := by
  constructor
  · rintro ⟨before, after, he, -, hafter⟩
    rcases concat_eq_append_cons he with ⟨-, rfl, -⟩ | ⟨mid, -, rfl⟩
    · rfl
    · exact absurd hx (hafter x (by simp))
  · rintro rfl
    exact ⟨xs, [], rfl, hx, fun z hz => by cases hz⟩

theorem lastWith_concat_of_neg (hx : ¬P x) : LastWith P (xs ++ [x]) y ↔ LastWith P xs y := by
  constructor
  · rintro ⟨before, after, he, hy, hafter⟩
    rcases concat_eq_append_cons he with ⟨-, rfl, -⟩ | ⟨mid, rfl, rfl⟩
    · exact absurd hy hx
    · exact ⟨before, mid, rfl, hy, fun z hz => hafter z (List.mem_append_left _ hz)⟩
  · rintro ⟨before, after, rfl, hy, hafter⟩
    refine ⟨before, after ++ [x], by simp, hy, fun z hz => ?_⟩
    rcases List.mem_append.mp hz with hz | hz
    · exact hafter z hz
    · rwa [List.mem_singleton.mp hz]

theorem LastWith.unique (h : LastWith P xs x) (h' : LastWith P xs y) : y = x := by
  induction xs using List.reverseRecOn with
  | nil =>
    obtain ⟨before, after, he, -⟩ := h
    simp at he
  | append_singleton xs z ih =>
    by_cases hz : P z
    · exact ((lastWith_concat_of_pos hz).mp h').trans ((lastWith_concat_of_pos hz).mp h).symm
    · exact ih ((lastWith_concat_of_neg hz).mp h) ((lastWith_concat_of_neg hz).mp h')

theorem lastWith_append_of_neg {ys : List α} (hys : ∀ z ∈ ys, ¬P z) :
    LastWith P (xs ++ ys) y ↔ LastWith P xs y := by
  induction ys using List.reverseRecOn with
  | nil => rw [List.append_nil]
  | append_singleton ys z ih =>
    rw [List.forall_mem_append, List.forall_mem_singleton] at hys
    rw [← List.append_assoc, lastWith_concat_of_neg hys.2, ih hys.1]

end Last

end ProofDesk
