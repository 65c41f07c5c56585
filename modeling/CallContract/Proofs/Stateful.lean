/-!
# Stateful — one action after another

What an action that can be refused makes of a state when others come before it, and what is known of a result that
others are made of.
-/

namespace CallContract

variable {ε σ α β : Type} {action : EStateM ε σ α} {next : α → EStateM ε σ β} {w w' : σ}

-- An action that looks at the state first.
theorem get_bind (next : σ → EStateM ε σ β) (w : σ) : ((get : EStateM ε σ σ) >>= next) w = next w w := rfl

-- An action that changes the state first.
theorem modify_bind (f : σ → σ) (next : PUnit → EStateM ε σ β) (w : σ) :
    ((modify f : EStateM ε σ PUnit) >>= next) w = next ⟨⟩ (f w) := rfl

theorem bind_of_ok {a : α} (h : action w = .ok a w') : (action >>= next) w = next a w' := by
  change EStateM.bind action next w = _
  rw [EStateM.bind, h]

theorem bind_of_error {fault : ε} (h : action w = .error fault w') : (action >>= next) w = .error fault w' := by
  change EStateM.bind action next w = _
  rw [EStateM.bind, h]

/-! ## Loops -/

variable {act : α → EStateM ε σ PUnit} {a : α} {as : List α}

theorem forM_cons_of_ok (h : act a w = .ok ⟨⟩ w') : (a :: as).forM act w = as.forM act w' := by
  change (act a >>= fun _ => as.forM act) w = _
  rw [bind_of_ok h]

theorem forM_cons_of_error {fault : ε} (h : act a w = .error fault w') : (a :: as).forM act w = .error fault w' := by
  change (act a >>= fun _ => as.forM act) w = _
  rw [bind_of_error h]

-- Skipping elements is the same as leaving them out.
theorem forM_filter (accept : α → Bool) (act : α → EStateM ε σ PUnit) (as : List α) :
    (as.forM fun a => if accept a then act a else pure ⟨⟩) = (as.filter accept).forM act := by
  induction as with
  | nil => rfl
  | cons a rest ih =>
    change ((if accept a then act a else pure ⟨⟩) >>= fun _ => rest.forM _) = _
    rw [ih]
    cases haccept : accept a with
    | true =>
      rw [List.filter_cons_of_pos haccept]
      rfl
    | false =>
      rw [List.filter_cons_of_neg (by simp [haccept])]
      rfl

/-! ## Results -/

variable {δ : Type} {r : Except ε α} {b : β}

theorem isOk_iff : r.isOk = true ↔ ∃ a, r = .ok a := by cases r <;> simp [Except.toBool]

theorem isOk_map (f : α → β) : (r.map f).isOk = r.isOk := by cases r <;> rfl

theorem isOk_mapError (f : ε → δ) : (r.mapError f).isOk = r.isOk := by cases r <;> rfl

-- Two results that are wanted together.
theorem isOk_both (r' : Except ε β) (f : α → β → δ) :
    (do let a ← r; let b ← r'; return f a b : Except ε δ).isOk = (r.isOk && r'.isOk) := by
  cases r <;> cases r' <;> rfl

theorem ok_of_map {f : α → β} (h : r.map f = .ok b) : ∃ a, r = .ok a ∧ f a = b := by
  cases r with
  | ok a => exact ⟨a, rfl, Except.ok.inj h⟩
  | error fault => cases h

theorem error_of_mapError {f : ε → δ} {fault : δ} (h : r.mapError f = .error fault) :
    ∃ reason, r = .error reason ∧ f reason = fault := by
  cases r with
  | ok a => cases h
  | error reason => exact ⟨reason, rfl, Except.error.inj h⟩

theorem ok_of_bind {next : α → Except ε β} (h : r >>= next = .ok b) : ∃ a, r = .ok a ∧ next a = .ok b := by
  cases r with
  | ok a => exact ⟨a, rfl, h⟩
  | error fault => cases h

end CallContract
