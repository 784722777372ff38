/-!
# Outcomes of computations

When a computation that may fail ends well, so did all of its steps. When it fails, one of its
steps does, and those before it end well.
-/

namespace CommandDocs

variable {ε ε' α β : Type}

/-- Two steps end well if both of them do, one after the other. -/
theorem bind_eq_ok {x : Except ε α} {f : α → Except ε β} {b : β} :
    (x >>= f) = .ok b ↔ ∃ a, x = .ok a ∧ f a = .ok b := by
  cases x with
  | ok a =>
    constructor
    · exact fun h => ⟨a, rfl, h⟩
    · intro h
      rcases h with ⟨a', ⟨⟩, h⟩
      exact h
  | error e =>
    constructor
    · intro h
      cases h
    · intro h
      rcases h with ⟨a', ⟨⟩, h⟩

/-- Two steps fail in the first one, or in the second one after the first. -/
theorem bind_eq_error {x : Except ε α} {f : α → Except ε β} {e : ε} :
    (x >>= f) = .error e ↔ x = .error e ∨ ∃ a, x = .ok a ∧ f a = .error e := by
  cases x with
  | ok a =>
    constructor
    · exact fun h => Or.inr ⟨a, rfl, h⟩
    · intro h
      rcases h with ⟨⟨⟩⟩ | ⟨a', ⟨⟩, h⟩
      exact h
  | error e' =>
    constructor
    · intro h
      cases h
      exact Or.inl rfl
    · intro h
      rcases h with ⟨⟨⟩⟩ | ⟨a', ⟨⟩, h⟩
      rfl

/-- A check and a step behind it end well if both of them do. -/
theorem check_bind_eq_ok {x : Except ε Unit} {f : Unit → Except ε β} {b : β} :
    (x >>= f) = .ok b ↔ x = .ok () ∧ f () = .ok b := by
  rw [bind_eq_ok]
  constructor
  · intro h
    rcases h with ⟨⟨⟩, hx, hf⟩
    exact ⟨hx, hf⟩
  · exact fun h => ⟨(), h⟩

/-- Of two checks with one and the same failure the whole has no other. -/
theorem check_bind_eq_ok_or {x y : Except ε Unit} {e : ε} (hx : x = .ok () ∨ x = .error e)
    (hy : y = .ok () ∨ y = .error e) :
    (x >>= fun _ => y) = .ok () ∨ (x >>= fun _ => y) = .error e := by
  rcases hx with rfl | rfl
  · exact hy
  · exact Or.inr rfl

/-- A failure that is told in other words is still one. -/
theorem mapError_eq_ok {f : ε → ε'} {x : Except ε α} {a : α} :
    x.mapError f = .ok a ↔ x = .ok a := by
  cases x with
  | ok b =>
    constructor
    · intro h
      cases h
      rfl
    · intro h
      cases h
      rfl
  | error e =>
    constructor
    · intro h
      cases h
    · intro h
      cases h

/-- Behind a failure that is told in other words there is one in its own words. -/
theorem mapError_eq_error {f : ε → ε'} {x : Except ε α} {e' : ε'} :
    x.mapError f = .error e' ↔ ∃ e, x = .error e ∧ e' = f e := by
  cases x with
  | ok a => exact iff_of_false (fun h => nomatch h) (fun ⟨_, h, _⟩ => nomatch h)
  | error e =>
    constructor
    · intro h
      cases h
      exact ⟨e, rfl, rfl⟩
    · intro h
      rcases h with ⟨_, ⟨⟩, rfl⟩
      rfl

/-- Something is made of a result where there is one. -/
theorem map_eq_ok {f : α → β} {x : Except ε α} {b : β} :
    x.map f = .ok b ↔ ∃ a, x = .ok a ∧ f a = b := by
  cases x with
  | ok a =>
    constructor
    · intro h
      cases h
      exact ⟨a, rfl, rfl⟩
    · intro h
      obtain ⟨_, ⟨⟩, rfl⟩ := h
      rfl
  | error e =>
    constructor
    · intro h
      cases h
    · intro h
      obtain ⟨_, ⟨⟩, -⟩ := h

/-- A failure is one whatever is made of the result. -/
theorem map_eq_error {f : α → β} {x : Except ε α} {e : ε} :
    x.map f = .error e ↔ x = .error e := by
  cases x with
  | ok a =>
    constructor
    · intro h
      cases h
    · intro h
      cases h
  | error e' =>
    constructor
    · intro h
      cases h
      rfl
    · intro h
      cases h
      rfl

/-- The computation gives this result, if it gives any. -/
def GivesOnly (x : Except ε α) (a : α) : Prop := ∀ a', x = .ok a' → a' = a

/-- What ends well gives its result only. -/
theorem givesOnly_ok (a : α) : GivesOnly (.ok a : Except ε α) a := by
  intro a' h
  exact (Except.ok.inj h).symm

/-- What fails gives nothing else. -/
theorem givesOnly_error (e : ε) (a : α) : GivesOnly (.error e : Except ε α) a := by
  intro a' h
  cases h

/-- Two steps give one result only when the first does, and the second behind it. -/
theorem GivesOnly.bind {x : Except ε α} {f : α → Except ε β} {a : α} {b : β}
    (hx : GivesOnly x a) (hf : GivesOnly (f a) b) : GivesOnly (x >>= f) b := by
  intro b' h
  obtain ⟨a', ha, hb⟩ := bind_eq_ok.mp h
  rw [hx a' ha] at hb
  exact hf b' hb

end CommandDocs
