import CommandDocs.Corpus.Run
import CommandDocs.Proofs.Outcome

/-!
# Steps of a run

When each elementary step of a run ends well, with which answer and in which state. A
run that ends well is taken apart into such steps, and put together from them. A run that
breaks off does so in one of its steps, and all steps before it ended well.
-/

namespace CommandDocs

namespace Run

variable {α β : Type} {s s' : RunState}

/-- A step that only answers. -/
theorem run_pure_eq_ok {a b : α} : (pure a : Run α).run.run s = (.ok b, s') ↔ b = a ∧ s' = s := by
  constructor
  · intro h
    cases h
    exact ⟨rfl, rfl⟩
  · intro h
    rcases h with ⟨rfl, rfl⟩
    rfl

/-- Reporting an event ends well with the event noted. -/
theorem run_report_eq_ok {e : LogEvent} {u : Unit} :
    (report e).run.run s = (.ok u, s') ↔ s' = s.note e := by
  constructor
  · intro h
    cases h
    rfl
  · intro h
    subst h
    rfl

/-- Two steps: the second one is carried out where the first one ends well. -/
theorem run_bind (x : Run α) (f : α → Run β) (s : RunState) :
    (x >>= f).run.run s =
      match x.run.run s with
      | (.ok a, s') => (f a).run.run s'
      | (.error e, s') => (.error e, s') := by
  simp only [ExceptT.run_bind, StateT.run_bind]
  rcases x.run.run s with ⟨outcome, s'⟩
  cases outcome <;> rfl

/-- What is made of an answer changes nothing. -/
theorem state_bind_pure (x : Run α) (f : α → β) (s : RunState) :
    ((x >>= fun a => pure (f a)).run.run s).2 = (x.run.run s).2 := by
  rw [run_bind]
  cases x.run.run s with
  | mk outcome s' => cases outcome <;> rfl

/-- Two steps end well if both of them do, one after the other. -/
theorem run_bind_eq_ok {x : Run α} {f : α → Run β} {b : β} :
    (x >>= f).run.run s = (.ok b, s') ↔
      ∃ a s₁, x.run.run s = (.ok a, s₁) ∧ (f a).run.run s₁ = (.ok b, s') := by
  rw [run_bind]
  rcases x.run.run s with ⟨outcome, s₁⟩
  cases outcome with
  | ok a =>
    constructor
    · exact fun h => ⟨a, s₁, rfl, h⟩
    · intro h
      rcases h with ⟨a', s₁', ⟨⟩, h⟩
      exact h
  | error e =>
    constructor
    · intro h
      cases h
    · intro h
      rcases h with ⟨a', s₁', ⟨⟩, h⟩

/-- A question is answered from the files, and the state is kept. -/
theorem run_ask_eq_ok {question : FileSystem → Except Failure α} {a : α} :
    (ask question).run.run s = (.ok a, s') ↔ question s.files = .ok a ∧ s' = s := by
  have hget : (get : Run RunState).run.run s = (.ok s, s) := rfl
  rw [ask, run_bind, hget]
  dsimp only
  cases question s.files with
  | ok answer =>
    rw [run_pure_eq_ok, Except.ok.injEq, eq_comm]
  | error failure =>
    constructor
    · intro h
      cases h
    · intro h
      rcases h with ⟨⟨⟩, -⟩

/-- A change ends well with the changed files. -/
theorem run_change_eq_ok {action : FileSystem → Except Failure FileSystem} {u : Unit} :
    (change action).run.run s = (.ok u, s') ↔
      ∃ files, action s.files = .ok files ∧ s' = { s with files } := by
  rw [change, run_bind_eq_ok]
  constructor
  · intro h
    rcases h with ⟨files, s₁, hask, ⟨⟩⟩
    obtain ⟨haction, rfl⟩ := run_ask_eq_ok.mp hask
    exact ⟨files, haction, rfl⟩
  · intro h
    rcases h with ⟨files, haction, rfl⟩
    exact ⟨files, s, run_ask_eq_ok.mpr ⟨haction, rfl⟩, rfl⟩

/-- Making directories ends well with all of them made. -/
theorem run_ensureDirectories_eq_ok {p : Path} {onError : FileError → Failure} {u : Unit} :
    (ensureDirectories p onError).run.run s = (.ok u, s') ↔
      (s.files.ensureDirectories p).1 = .ok () ∧
        s' = { s with files := (s.files.ensureDirectories p).2 } := by
  have hget : (get : Run RunState).run.run s = (.ok s, s) := rfl
  rw [ensureDirectories, run_bind, hget]
  dsimp only
  rcases s.files.ensureDirectories p with ⟨outcome, files⟩
  have hmodify : (modify fun s => { s with files } : Run Unit).run.run s =
      (.ok (), { s with files }) := rfl
  dsimp only
  rw [run_bind, hmodify]
  cases outcome with
  | ok u =>
    rw [run_pure_eq_ok]
    simp only [true_and]
  | error e =>
    constructor
    · intro h
      cases h
    · intro h
      rcases h with ⟨⟨⟩, -⟩

/-! ### Steps that break off -/

variable {failure : Failure}

/-- Two steps break off in the first one, or in the second one after the first. -/
theorem run_bind_eq_error {x : Run α} {f : α → Run β} :
    (x >>= f).run.run s = (.error failure, s') ↔
      x.run.run s = (.error failure, s') ∨
        ∃ a s₁, x.run.run s = (.ok a, s₁) ∧ (f a).run.run s₁ = (.error failure, s') := by
  rw [run_bind]
  rcases x.run.run s with ⟨outcome, s₁⟩
  cases outcome with
  | ok a =>
    constructor
    · exact fun h => Or.inr ⟨a, s₁, rfl, h⟩
    · intro h
      rcases h with ⟨⟨⟩⟩ | ⟨a', s₁', ⟨⟩, h⟩
      exact h
  | error e =>
    constructor
    · intro h
      cases h
      exact Or.inl rfl
    · intro h
      rcases h with ⟨⟨⟩⟩ | ⟨a', s₁', ⟨⟩, h⟩
      rfl

/-- An answer without a question never breaks off. -/
theorem run_pure_ne_error (a : α) (s : RunState) :
    (pure a : Run α).run.run s ≠ (.error failure, s') := nofun

/-- Reporting an event never breaks off. -/
theorem run_report_ne_error (e : LogEvent) (s : RunState) :
    (report e).run.run s ≠ (.error failure, s') := nofun

/-- A question that is not answered changes nothing. -/
theorem run_ask_eq_error {question : FileSystem → Except Failure α} :
    (ask question).run.run s = (.error failure, s') ↔
      question s.files = .error failure ∧ s' = s := by
  have hget : (get : Run RunState).run.run s = (.ok s, s) := rfl
  rw [ask, run_bind, hget]
  dsimp only
  cases question s.files with
  | ok answer => exact iff_of_false (run_pure_ne_error _ _) (fun h => nomatch h.1)
  | error failure' =>
    constructor
    · intro h
      cases h
      exact ⟨rfl, rfl⟩
    · intro h
      rcases h with ⟨⟨⟩, rfl⟩
      rfl

/-- A change that fails changes nothing. -/
theorem run_change_eq_error {action : FileSystem → Except Failure FileSystem} :
    (change action).run.run s = (.error failure, s') ↔
      action s.files = .error failure ∧ s' = s := by
  rw [change, run_bind_eq_error, run_ask_eq_error]
  refine or_iff_left fun h => ?_
  rcases h with ⟨files, s₁, -, ⟨⟩⟩

/-- Where directories cannot be made, those that were made stay. -/
theorem run_ensureDirectories_eq_error {p : Path} {onError : FileError → Failure} :
    (ensureDirectories p onError).run.run s = (.error failure, s') ↔
      ∃ e, (s.files.ensureDirectories p).1 = .error e ∧ failure = onError e ∧
        s' = { s with files := (s.files.ensureDirectories p).2 } := by
  have hget : (get : Run RunState).run.run s = (.ok s, s) := rfl
  rw [ensureDirectories, run_bind, hget]
  dsimp only
  rcases s.files.ensureDirectories p with ⟨outcome, files⟩
  have hmodify : (modify fun s => { s with files } : Run Unit).run.run s =
      (.ok (), { s with files }) := rfl
  dsimp only
  rw [run_bind, hmodify]
  cases outcome with
  | ok u => exact iff_of_false (run_pure_ne_error _ _) (fun ⟨_, h, _⟩ => nomatch h)
  | error e =>
    constructor
    · intro h
      cases h
      exact ⟨e, rfl, rfl, rfl⟩
    · intro h
      rcases h with ⟨_, ⟨⟩, rfl, rfl⟩
      rfl

end Run

end CommandDocs
