import Mathlib.Data.List.Forall2

/-! # Functions that may raise

Sequences and comprehensions in `Except`. A comprehension applies a function to one item after
the other and raises what the first of them raises. -/

namespace IotCore.Raising

variable {α β ε κ : Type}

@[simp] theorem ok_bind (x : α) (f : α → Except ε β) : (Except.ok x >>= f) = f x := rfl

theorem bind_eq_ok {m : Except ε α} {f : α → Except ε β} {y : β} :
    (m >>= f) = .ok y ↔ ∃ x, m = .ok x ∧ f x = .ok y := by
  cases m with
  | error e => simp [bind, Except.bind]
  | ok x => simp

/-- A comprehension over a list, for a function of known results. -/
theorem mapM_eq_ok {read : α → Except ε β} {R : α → β → Prop}
    (hread : ∀ a b, read a = .ok b ↔ R a b) {as : List α} {bs : List β} :
    as.mapM read = .ok bs ↔ List.Forall₂ R as bs := by
  induction as generalizing bs with
  | nil => cases bs <;> simp [pure, Except.pure]
  | cons a as ih =>
      rw [List.mapM_cons, bind_eq_ok]
      cases bs with
      | nil => simp [bind_eq_ok, pure, Except.pure]
      | cons b bs => simp [bind_eq_ok, pure, Except.pure, hread, ih]

/-- `{k: read(v) for k, v in items}`. -/
def mapItemsM (read : α → Except ε β) (items : List (κ × α)) : Except ε (List (κ × β)) :=
  items.mapM fun item => do return (item.1, ← read item.2)

theorem mapItemsM_eq_ok {read : α → Except ε β} {R : α → β → Prop}
    (hread : ∀ a b, read a = .ok b ↔ R a b) {items : List (κ × α)} {results : List (κ × β)} :
    mapItemsM read items = .ok results ↔
      List.Forall₂ (fun item result => item.1 = result.1 ∧ R item.2 result.2) items results := by
  refine mapM_eq_ok fun item result => ?_
  obtain ⟨key, b⟩ := result
  simp only [bind_eq_ok, hread, pure, Except.pure, Except.ok.injEq, Prod.mk.injEq]
  constructor
  · rintro ⟨_, hb, rfl, rfl⟩
    exact ⟨rfl, hb⟩
  · rintro ⟨rfl, hb⟩
    exact ⟨b, hb, rfl, rfl⟩

end IotCore.Raising
