import Transclude.Run

/-!
How runs compose. A run that goes on after another has the outcome of the second, or the failure of
the first, and it opened what both of them opened.
-/

namespace Transclude.Run

variable {α β : Type}

@[simp]
theorem outcome_pure (value : α) : (pure value : Run α).outcome = .ok value := rfl

@[simp]
theorem outcome_fail (failure : Failure) : (fail failure : Run α).outcome = .error failure := rfl

@[simp]
theorem outcome_within (span : Span) (run : Run α) : (within span run).outcome = run.outcome := rfl

@[simp]
theorem outcome_ofExcept (outcome : Except Failure α) : (ofExcept outcome).outcome = outcome := rfl

@[simp]
theorem outcome_note_bind (entry : Note) (next : Unit → Run β) :
    (note entry >>= next).outcome = (next ()).outcome := rfl

theorem bind_of_error {run : Run α} {failure : Failure} (failed : run.outcome = .error failure)
    (next : α → Run β) : run >>= next = ⟨run.log, .error failure⟩ := by
  obtain ⟨log, outcome⟩ := run
  change outcome = _ at failed
  rw [failed]
  rfl

theorem bind_of_ok {run : Run α} {value : α} (went : run.outcome = .ok value)
    (next : α → Run β) :
    run >>= next = ⟨run.log ++ (next value).log, (next value).outcome⟩ := by
  obtain ⟨log, outcome⟩ := run
  change outcome = _ at went
  rw [went]
  rfl

theorem outcome_bind (run : Run α) (next : α → Run β) :
    (run >>= next).outcome = run.outcome.bind fun value => (next value).outcome := by
  cases found : run.outcome with
  | error failure => rw [bind_of_error found]; rfl
  | ok value => rw [bind_of_ok found]; rfl

instance : LawfulMonad Run := .mk' Run
  (fun run => by
    change run >>= pure = run
    cases found : run.outcome with
    | error failure => rw [bind_of_error found, ← found]
    | ok value =>
      rw [bind_of_ok found]
      change (⟨run.log ++ [], .ok value⟩ : Run _) = run
      rw [List.append_nil, ← found])
  (fun _ _ => rfl)
  (fun run next last => by
    cases found : run.outcome with
    | error failure => rw [bind_of_error found, bind_of_error found, bind_of_error rfl]
    | ok value =>
      rw [bind_of_ok found, bind_of_ok found]
      cases second : (next value).outcome with
      | error failure => rw [bind_of_error rfl, bind_of_error second]
      | ok later => rw [bind_of_ok rfl, bind_of_ok second, List.append_assoc])

/-- A composed run succeeds when both of its parts do. -/
theorem bind_eq_ok {run : Run α} {next : α → Run β} {result : β} :
    (run >>= next).outcome = .ok result ↔
      ∃ value, run.outcome = .ok value ∧ (next value).outcome = .ok result := by
  rw [outcome_bind]
  cases run.outcome with
  | error failure => simp [Except.bind]
  | ok value => simp [Except.bind]

/-- A composed run fails in its first part, or in its second after the first went well. -/
theorem bind_eq_error {run : Run α} {next : α → Run β} {failure : Failure} :
    (run >>= next).outcome = .error failure ↔
      run.outcome = .error failure ∨
        ∃ value, run.outcome = .ok value ∧ (next value).outcome = .error failure := by
  rw [outcome_bind]
  cases run.outcome with
  | error failure => simp [Except.bind]
  | ok value => simp [Except.bind]

@[simp]
theorem opened_pure (value : α) : (pure value : Run α).opened = [] := rfl

@[simp]
theorem opened_fail (failure : Failure) : (fail failure : Run α).opened = [] := rfl

@[simp]
theorem opened_within (span : Span) (run : Run α) : (within span run).opened = run.opened := by
  simp only [opened, within, List.filterMap_map]
  rfl

theorem opened_bind_of_ok {run : Run α} {value : α} (went : run.outcome = .ok value)
    (next : α → Run β) : (run >>= next).opened = run.opened ++ (next value).opened := by
  rw [bind_of_ok went]
  exact List.filterMap_append

theorem opened_bind_of_error {run : Run α} {failure : Failure}
    (failed : run.outcome = .error failure) (next : α → Run β) :
    (run >>= next).opened = run.opened := by
  rw [bind_of_error failed]
  rfl

/-- A step that opens nothing adds nothing to what was opened before. -/
theorem opened_bind_of_silent {next : α → Run β} (silent : ∀ value, (next value).opened = [])
    (run : Run α) : (run >>= next).opened = run.opened := by
  cases found : run.outcome with
  | error failure => rw [opened_bind_of_error found]
  | ok value => rw [opened_bind_of_ok found, silent, List.append_nil]

end Transclude.Run
