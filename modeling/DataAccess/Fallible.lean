/-
  DataAccess.Fallible — calls that give a value or say why not.

  Readers, checks and requests all end in a value or in an error, and are put
  together from smaller ones: the first error is that of the whole.  These are
  the laws by which proofs take them apart.  A part whose outcome is known is
  replaced by it (the lemmas tagged `simp`); of a whole whose outcome is known,
  the outcomes of its parts are read off (the equivalences).

  Main statements:
    * `bind_ok_iff`    — two steps succeed one after the other;
    * `bind_error_iff` — two steps fail in the first that fails.
-/

namespace DataAccess

section Fallible

variable {ε ε' α β : Type}

/-! ## §1. Outcomes that are known. -/

@[simp] theorem pure_eq_ok (a : α) : (pure a : Except ε α) = .ok a := rfl

@[simp] theorem throw_eq_error (e : ε) : (throw e : Except ε α) = .error e := rfl

@[simp] theorem ok_bind (a : α) (f : α → Except ε β) : (Except.ok a >>= f) = f a := rfl

@[simp] theorem error_bind (e : ε) (f : α → Except ε β) : (Except.error e >>= f) = .error e := rfl

@[simp] theorem map_ok (f : α → β) (a : α) : (Except.ok a : Except ε α).map f = .ok (f a) := rfl

@[simp] theorem map_error (f : α → β) (e : ε) : (Except.error e).map f = .error e := rfl

@[simp] theorem mapError_ok (f : ε → ε') (a : α) : (Except.ok a).mapError f = .ok a := rfl

@[simp] theorem mapError_error (f : ε → ε') (e : ε) :
    (Except.error e : Except ε α).mapError f = .error (f e) := rfl

@[simp] theorem functor_map_ok (f : α → β) (a : α) :
    f <$> (Except.ok a : Except ε α) = .ok (f a) := rfl

@[simp] theorem functor_map_error (f : α → β) (e : ε) : f <$> (Except.error e) = .error e := rfl

/-! ## §2. Outcomes of the parts. -/

/-- Two steps succeed if the first does and then the second. -/
theorem bind_ok_iff {x : Except ε α} {f : α → Except ε β} {b : β} :
    x >>= f = .ok b ↔ ∃ a, x = .ok a ∧ f a = .ok b := by
  cases x <;> simp

/-- Two steps fail in the first, or in the second after the first succeeds. -/
theorem bind_error_iff {x : Except ε α} {f : α → Except ε β} {e : ε} :
    x >>= f = .error e ↔ x = .error e ∨ ∃ a, x = .ok a ∧ f a = .error e := by
  cases x <;> simp

theorem map_ok_iff {x : Except ε α} {f : α → β} {b : β} :
    f <$> x = .ok b ↔ ∃ a, x = .ok a ∧ f a = b := by
  cases x <;> simp

theorem map_error_iff {x : Except ε α} {f : α → β} {e : ε} :
    f <$> x = .error e ↔ x = .error e := by
  cases x <;> simp

end Fallible

end DataAccess
