import Mathlib.Data.Finset.Basic

/-! # Requests and their first responses

A client publishes requests under fresh keys and keeps the keys of those it still expects a
response to. It may publish a request before it notes the key down. -/

namespace IotCore.Ledger

variable {κ : Type*}

/-- `pending` has the keys of the requests without a response, less the one that has been
published and not been noted down. -/
structure Balanced (noting : Option κ) (issued seen pending : Finset κ) : Prop where
  pending_iff : ∀ k, k ∈ pending ↔ k ∈ issued ∧ k ∉ seen ∧ noting ≠ some k
  fresh : ∀ k, noting = some k → k ∈ issued ∧ k ∉ seen

variable {noting : Option κ} {issued seen pending : Finset κ} {k : κ}

theorem balanced_empty : Balanced (none : Option κ) ∅ ∅ ∅ :=
  ⟨by simp, by simp⟩

/-- The first response to a request finds its key. -/
theorem Balanced.mem (h : Balanced none issued seen pending) (hissued : k ∈ issued)
    (hseen : k ∉ seen) : k ∈ pending :=
  (h.pending_iff k).mpr ⟨hissued, hseen, by simp⟩

/-- A second response, or one to the request of somebody else, does not. -/
theorem Balanced.notMem (h : Balanced noting issued seen pending) (hk : k ∉ issued ∨ k ∈ seen) :
    k ∉ pending := by
  intro hmem
  obtain ⟨hissued, hseen, _⟩ := (h.pending_iff k).mp hmem
  rcases hk with hk | hk
  · exact hk hissued
  · exact hseen hk

variable [DecidableEq κ]

theorem Balanced.eq_sdiff (h : Balanced none issued seen pending) : pending = issued \ seen := by
  ext k
  simp [h.pending_iff]

theorem Balanced.publish (h : Balanced none issued seen pending) (hk : k ∉ issued ∪ seen) :
    Balanced (some k) (insert k issued) seen pending := by
  obtain ⟨hissued, hseen⟩ : k ∉ issued ∧ k ∉ seen := by simpa using hk
  refine ⟨fun j => ?_, fun j hj => ?_⟩
  · by_cases hj : j = k
    · subst hj
      simp [h.pending_iff, hissued]
    · have hne : ¬k = j := fun e => hj e.symm
      simp [h.pending_iff, hj, hne]
  · obtain rfl : k = j := Option.some.inj hj
    exact ⟨Finset.mem_insert_self .., hseen⟩

theorem Balanced.note (h : Balanced (some k) issued seen pending) :
    Balanced none issued seen (insert k pending) := by
  obtain ⟨hissued, hseen⟩ := h.fresh k rfl
  refine ⟨fun j => ?_, by simp⟩
  by_cases hj : j = k
  · subst hj
    simp [hissued, hseen]
  · have hne : ¬k = j := fun e => hj e.symm
    simp [h.pending_iff, hj, hne]

theorem Balanced.respond (h : Balanced none issued seen pending) :
    Balanced none issued (insert k seen) (pending.erase k) := by
  refine ⟨fun j => ?_, by simp⟩
  by_cases hj : j = k
  · simp [hj]
  · simp [h.pending_iff, hj]

theorem Balanced.respond_of_notMem (h : Balanced none issued seen pending) (hk : k ∉ pending) :
    Balanced none issued (insert k seen) pending := by
  have hbalanced := h.respond (k := k)
  rwa [Finset.erase_eq_of_notMem hk] at hbalanced

end IotCore.Ledger
