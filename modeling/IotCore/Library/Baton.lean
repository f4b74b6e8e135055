import Mathlib.Logic.Basic

/-! # A flag that stands for one piece of work

A flag is up while somebody holds a piece of work, and there is one piece at most. Work is
taken up when the flag is down, passed on from holder to holder, and put down in the end. -/

namespace IotCore.Baton

variable {α : Type*}

structure Single (holds : α → Prop) (busy : Prop) : Prop where
  unique : ∀ a b, holds a → holds b → a = b
  busy : ∀ a, holds a → busy

variable {holds holds' : α → Prop} {busy busy' : Prop} {a b : α}

theorem Single.free (h : Single holds busy) (hbusy : ¬busy) (c : α) : ¬holds c :=
  fun hc => hbusy (h.busy c hc)

theorem single_empty (hempty : ∀ c, ¬holds c) : Single holds busy :=
  ⟨fun c _ hc => absurd hc (hempty c), fun c hc => absurd hc (hempty c)⟩

/-- A step that at most loses the piece of work. -/
theorem Single.keep (h : Single holds busy) (hsub : ∀ c, holds' c → holds c)
    (hbusy : busy → busy') : Single holds' busy' :=
  ⟨fun c d hc hd => h.unique c d (hsub c hc) (hsub d hd), fun c hc => hbusy (h.busy c (hsub c hc))⟩

/-- Somebody finds the flag down and raises it. -/
theorem Single.take (h : Single holds busy) (hfree : ¬busy) (hsub : ∀ c, holds' c → holds c ∨ c = a)
    (hbusy : busy') : Single holds' busy' := by
  have honly : ∀ c, holds' c → c = a := fun c hc => (hsub c hc).resolve_left (h.free hfree c)
  exact ⟨fun c d hc hd => (honly c hc).trans (honly d hd).symm, fun _ _ => hbusy⟩

/-- The holder passes its work on. -/
theorem Single.pass (h : Single holds busy) (ha : holds a)
    (hsub : ∀ c, holds' c → holds c ∧ c ≠ a ∨ c = b) (hbusy : busy → busy') :
    Single holds' busy' := by
  have honly : ∀ c, holds' c → c = b := by
    intro c hc
    rcases hsub c hc with ⟨hold, hne⟩ | heq
    · exact absurd (h.unique c a hold ha) hne
    · exact heq
  exact ⟨fun c d hc hd => (honly c hc).trans (honly d hd).symm, fun _ _ => hbusy (h.busy a ha)⟩

/-- The holder puts its work down, and nobody holds any. -/
theorem Single.drop (h : Single holds busy) (ha : holds a)
    (hsub : ∀ c, holds' c → holds c ∧ c ≠ a) : Single holds' busy' :=
  single_empty fun c hc => (hsub c hc).2 (h.unique c a (hsub c hc).1 ha)

end IotCore.Baton
