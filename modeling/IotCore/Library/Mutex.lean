import Mathlib.Logic.Function.Basic

/-! # A lock and the threads that use it

A non-reentrant lock is the name of its owner. Each thread has a local state, some of which
are inside a critical section; the lock is used correctly when the thread inside is its owner. -/

namespace IotCore.Mutex

variable {τ κ : Type*}

/-- The lock is owned by exactly the threads whose local state is inside. -/
def Owned (inside : κ → Prop) (lock : Option τ) (loc : τ → κ) : Prop :=
  ∀ t, lock = some t ↔ inside (loc t)

variable {inside : κ → Prop} {lock : Option τ} {loc : τ → κ} {t u : τ} {x : κ}

theorem Owned.not_owner (h : Owned inside lock loc) (ht : ¬inside (loc t)) : lock ≠ some t :=
  fun howner => ht ((h t).mp howner)

/-- Two threads are never inside at once. -/
theorem Owned.unique (h : Owned inside lock loc) (ht : inside (loc t)) (hu : inside (loc u)) :
    t = u :=
  Option.some.inj (((h t).mpr ht).symm.trans ((h u).mpr hu))

theorem Owned.free_iff (h : Owned inside lock loc) : lock = none ↔ ∀ t, ¬inside (loc t) := by
  constructor
  · rintro rfl t ht
    cases (h t).mpr ht
  · intro hout
    cases hlock : lock with
    | none => rfl
    | some t => exact absurd ((h t).mp hlock) (hout t)

variable [DecidableEq τ]

/-- A step that neither enters nor leaves. -/
theorem Owned.keep (h : Owned inside lock loc) (hx : inside x ↔ inside (loc t)) :
    Owned inside lock (Function.update loc t x) := by
  intro u
  by_cases hu : u = t
  · subst hu
    simpa [hx] using h u
  · simpa [hu] using h u

/-- A thread that enters finds the lock free and becomes its owner. -/
theorem Owned.acquire (h : Owned inside none loc) (hx : inside x) :
    Owned inside (some t) (Function.update loc t x) := by
  intro u
  by_cases hu : u = t
  · subst hu
    simpa using hx
  · have hout : ¬inside (loc u) := h.free_iff.mp rfl u
    have hne : ¬t = u := fun e => hu e.symm
    simp [hu, hne, hout]

/-- A thread that leaves frees the lock. -/
theorem Owned.release (h : Owned inside lock loc) (ht : inside (loc t)) (hx : ¬inside x) :
    Owned inside none (Function.update loc t x) := by
  intro u
  by_cases hu : u = t
  · subst hu
    simpa using hx
  · have hout : ¬inside (loc u) := fun hin => hu (h.unique hin ht)
    simp [hu, hout]

end IotCore.Mutex
