/-
Results — how steps that may fail combine.

A sequence of steps succeeds when every step does; its result is that of the last step.  A
list is converted when all its items are.
-/
import MeshlessGas.Failure

namespace MeshlessGas

namespace Result

variable {ε α β : Type}

/-! ## Steps one after the other -/

@[simp] theorem ok_bind (a : α) (f : α → Except ε β) : (Except.ok a >>= f) = f a := rfl

@[simp] theorem pure_eq (a : α) : (pure a : Except ε α) = .ok a := rfl

theorem error_ne_ok {e : ε} {a : α} : (Except.error e : Except ε α) ≠ .ok a := by
  intro h
  cases h

theorem bind_eq_ok {x : Except ε α} {f : α → Except ε β} {b : β} :
    (x >>= f) = .ok b ↔ ∃ a, x = .ok a ∧ f a = .ok b := by
  cases x with
  | error e =>
    constructor
    · intro h
      cases h
    · rintro ⟨a, h, -⟩
      cases h
  | ok a =>
    constructor
    · intro h
      exact ⟨a, rfl, h⟩
    · rintro ⟨a', h, hf⟩
      cases h
      exact hf

/-! ## Lists -/

theorem mapM_of_forall_ok {f : α → Except ε β} {g : α → β} :
    ∀ {xs : List α}, (∀ a ∈ xs, f a = .ok (g a)) → xs.mapM f = .ok (xs.map g)
  | [], _ => rfl
  | a :: xs, h => by
    rw [List.mapM_cons, h a List.mem_cons_self,
      mapM_of_forall_ok fun b hb => h b (List.mem_cons_of_mem a hb)]
    rfl

theorem exists_mapM_eq_ok {f : α → Except ε β} :
    ∀ {xs : List α}, (∀ a ∈ xs, ∃ b, f a = .ok b) → ∃ ys, xs.mapM f = .ok ys
  | [], _ => ⟨[], rfl⟩
  | a :: xs, h => by
    obtain ⟨⟨b, hb⟩, hrest⟩ := List.forall_mem_cons.mp h
    obtain ⟨ys, hys⟩ := exists_mapM_eq_ok hrest
    rw [List.mapM_cons, hb, hys]
    exact ⟨b :: ys, rfl⟩

/-- A list whose items fail in one way only fails so where some item does. -/
theorem mapM_eq_error {f : α → Except ε β} {e : ε} :
    ∀ {xs : List α}, (∀ a ∈ xs, ∀ e', f a = .error e' → e' = e) →
      ∀ {a : α}, a ∈ xs → f a = .error e → xs.mapM f = .error e
  | x :: xs, honly, a, ha, hfail => by
    rw [List.mapM_cons]
    cases hx : f x with
    | error e' =>
      rw [honly x List.mem_cons_self e' hx]
      rfl
    | ok b =>
      -- The first item does not fail, so it is a later one that does.
      have hrest : a ∈ xs := by
        rcases List.mem_cons.mp ha with rfl | hrest
        · rw [hx] at hfail
          cases hfail
        · exact hrest
      rw [mapM_eq_error (fun c hc => honly c (List.mem_cons_of_mem x hc)) hrest hfail]
      rfl

end Result

end MeshlessGas
