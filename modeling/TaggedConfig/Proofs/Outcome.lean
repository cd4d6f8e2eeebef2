/-! Computations that may fail, taken apart: one that succeeds is made of parts that do. -/

namespace TaggedConfig.Outcome

variable {ε α β : Type}

@[simp] theorem ok_bind (a : α) (f : α → Except ε β) : (Except.ok a >>= f) = f a := rfl

@[simp] theorem error_bind (e : ε) (f : α → Except ε β)
    : (Except.error e >>= f) = .error e := rfl

@[simp] theorem map_ok (f : α → β) (a : α) : (Except.ok a : Except ε α).map f = .ok (f a) := rfl

@[simp] theorem map_error (f : α → β) (e : ε)
    : (Except.error e : Except ε α).map f = .error e := rfl

@[simp] theorem pure_eq_ok (a : α) : (pure a : Except ε α) = .ok a := rfl

@[simp] theorem throw_eq_error (e : ε) : (throw e : Except ε α) = .error e := rfl

theorem bind_eq_ok {first : Except ε α} {second : α → Except ε β} {b : β}
    : first >>= second = .ok b ↔ ∃ a, first = .ok a ∧ second a = .ok b := by
  cases first <;> simp

/-- A sequence fails in its first part, or in its second one after the first. -/
theorem bind_eq_error {first : Except ε α} {second : α → Except ε β} {e : ε}
    : first >>= second = .error e
      ↔ first = .error e ∨ ∃ a, first = .ok a ∧ second a = .error e := by
  cases first <;> simp

theorem map_eq_ok {outcome : Except ε α} {f : α → β} {b : β}
    : outcome.map f = .ok b ↔ ∃ a, outcome = .ok a ∧ f a = b := by
  cases outcome <;> simp

theorem map_eq_error {outcome : Except ε α} {f : α → β} {e : ε}
    : outcome.map f = .error e ↔ outcome = .error e := by
  cases outcome <;> simp

theorem mapError_eq_ok {ε' : Type} {outcome : Except ε α} {f : ε → ε'} {a : α}
    : outcome.mapError f = .ok a ↔ outcome = .ok a := by
  cases outcome with
  | error => exact iff_of_false nofun nofun
  | ok b =>
      change (Except.ok b : Except ε' α) = .ok a ↔ (Except.ok b : Except ε α) = .ok a
      simp

/-- A result whose errors are turned into others is an error if and only if it was one. -/
theorem mapError_eq_error {ε' : Type} {outcome : Except ε α} {f : ε → ε'} {e' : ε'}
    : outcome.mapError f = .error e' ↔ ∃ e, outcome = .error e ∧ f e = e' := by
  cases outcome with
  | error e =>
      change (Except.error (f e) : Except ε' α) = .error e'
        ↔ ∃ e'', (Except.error e : Except ε α) = .error e'' ∧ f e'' = e'
      simp
  | ok => exact iff_of_false nofun fun ⟨_, same, _⟩ => by cases same

@[simp] theorem toOption_ok (a : α) : (Except.ok a : Except ε α).toOption = some a := rfl

@[simp] theorem toOption_error (e : ε) : (Except.error e : Except ε α).toOption = none := rfl

theorem toOption_eq_some {outcome : Except ε α} {a : α}
    : outcome.toOption = some a ↔ outcome = .ok a := by
  cases outcome <;> simp

/-- What a sequence gives depends on what its parts give and not on how they fail. -/
theorem toOption_bind (first : Except ε α) (second : α → Except ε β)
    : (first >>= second).toOption = first.toOption.bind fun a => (second a).toOption := by
  cases first <;> rfl

theorem toOption_map (f : α → β) (outcome : Except ε α)
    : (outcome.map f).toOption = outcome.toOption.map f := by
  cases outcome <;> rfl

theorem toOption_mapError {ε' : Type} (f : ε → ε') (outcome : Except ε α)
    : (outcome.mapError f).toOption = outcome.toOption := by
  cases outcome <;> rfl

end TaggedConfig.Outcome
