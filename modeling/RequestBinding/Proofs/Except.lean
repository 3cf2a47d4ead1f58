/-! What a computation that may fail was made of, once it has succeeded. -/

namespace RequestBinding

universe u v

variable {ε ε' : Type} {α γ : Type u} {β : Type v}

@[simp] theorem mapError_eq_ok {f : ε → ε'} {result : Except ε α} {a : α} :
    result.mapError f = .ok a ↔ result = .ok a := by
  cases result with
  | ok found =>
    constructor
    · rintro ⟨⟩
      rfl
    · rintro ⟨⟩
      rfl
  | error e => exact ⟨nofun, nofun⟩

@[simp] theorem map_eq_ok {f : α → β} {result : Except ε α} {b : β} :
    result.map f = .ok b ↔ ∃ a, result = .ok a ∧ f a = b := by
  cases result <;> simp [Except.map]

@[simp] theorem map_map_eq_ok {δ : Type u} {f : α → β} {g : β → δ} {result : Except ε α} {d : δ} :
    (result.map f).map g = .ok d ↔ ∃ a, result = .ok a ∧ g (f a) = d := by
  cases result <;> simp [Except.map]

theorem bind_eq_ok {result : Except ε α} {f : α → Except ε γ} {c : γ} :
    result >>= f = .ok c ↔ ∃ a, result = .ok a ∧ f a = .ok c := by
  cases result <;> simp [bind, Except.bind]

theorem toOption_eq_some {result : Except ε α} {a : α} : result.toOption = some a ↔ result = .ok a := by
  cases result <;> simp [Except.toOption]

/-- A change of items that changes the result for none of them changes nothing for all of them. -/
theorem mapM_map_eq_ok {f : α → Except ε γ} {change : α → α} {items : List α} {found : List γ}
    (hc : ∀ item ∈ items, ∀ c, f item = .ok c → f (change item) = .ok c) (h : items.mapM f = .ok found) :
    (items.map change).mapM f = .ok found := by
  induction items generalizing found with
  | nil => exact h
  | cons item rest ih =>
    obtain ⟨hhead, hrest⟩ := List.forall_mem_cons.1 hc
    rw [List.mapM_cons] at h
    obtain ⟨c, hc, h⟩ := bind_eq_ok.1 h
    obtain ⟨later, hlater, h⟩ := bind_eq_ok.1 h
    rw [List.map_cons, List.mapM_cons]
    exact bind_eq_ok.2 ⟨c, hhead c hc, bind_eq_ok.2 ⟨later, ih hrest hlater, h⟩⟩

end RequestBinding
