import Mathlib.Data.List.Basic

/-! # Dictionaries with a value for nothing

A dictionary is the list of its entries. A program that treats a missing key like a key with
the value `none` cannot tell a dictionary from the same one padded with such entries. -/

namespace IotCore

/-- The first entry of a key counts. -/
abbrev Dict (κ α : Type*) := List (κ × α)

end IotCore

namespace IotCore.Dict

variable {κ α : Type*} [DecidableEq κ]

def without (d : Dict κ α) (keys : List κ) : Dict κ α :=
  d.filter fun entry => entry.1 ∉ keys

def set (d : Dict κ α) (key : κ) (value : α) : Dict κ α :=
  (key, value) :: d.without [key]

theorem lookup_entry (k : κ) (value : α) (d : Dict κ α) (key : κ) :
    List.lookup key ((k, value) :: d) = if key = k then some value else d.lookup key := by
  rw [List.lookup_cons]
  by_cases h : key = k
  · rw [if_pos h, beq_iff_eq.mpr h]
  · rw [if_neg h, beq_eq_false_iff_ne.mpr h]

theorem lookup_without (d : Dict κ α) (keys : List κ) (key : κ) :
    (d.without keys).lookup key = if key ∈ keys then none else d.lookup key := by
  induction d with
  | nil => simp [without]
  | cons entry d ih =>
      obtain ⟨k, value⟩ := entry
      rw [lookup_entry]
      by_cases hk : k ∈ keys
      · have hdrop : without ((k, value) :: d) keys = without d keys := by simp [without, hk]
        rw [hdrop, ih]
        by_cases hkey : key ∈ keys
        · rw [if_pos hkey, if_pos hkey]
        · have hne : key ≠ k := fun e => hkey (e ▸ hk)
          rw [if_neg hkey, if_neg hkey, if_neg hne]
      · have hkeep : without ((k, value) :: d) keys = (k, value) :: without d keys := by
          simp [without, hk]
        rw [hkeep, lookup_entry, ih]
        by_cases hkey : key = k
        · rw [if_pos hkey, if_pos hkey, if_neg fun hmem => hk (hkey ▸ hmem)]
        · rw [if_neg hkey, if_neg hkey]

theorem lookup_set (d : Dict κ α) (key : κ) (value : α) (key' : κ) :
    (d.set key value).lookup key' = if key' = key then some value else d.lookup key' := by
  rw [set, lookup_entry]
  by_cases h : key' = key
  · rw [if_pos h, if_pos h]
  · rw [if_neg h, if_neg h, lookup_without, if_neg (by simpa using h)]

theorem lookup_map_const (keys : List κ) (value : α) (key : κ) :
    List.lookup key (keys.map fun k => (k, value)) = if key ∈ keys then some value else none := by
  induction keys with
  | nil => rfl
  | cons k keys ih =>
      rw [List.map_cons, lookup_entry, ih]
      by_cases h : key = k
      · simp [h]
      · simp [h]

/-! ## Padding -/

/-- The second dictionary is the first one, with `none` for some of the keys that are missing
there. -/
def Pads (none : α) (keys : List κ) (d d' : Dict κ α) : Prop :=
  ∀ key, d'.lookup key = d.lookup key ∨
    key ∈ keys ∧ d.lookup key = .none ∧ d'.lookup key = some none

section

variable {none : α} {keys : List κ} {d d' : Dict κ α}

theorem pads_append (added : List κ) (h : ∀ key ∈ added, key ∈ keys ∧ d.lookup key = .none) :
    Pads none keys d (d ++ added.map fun key => (key, none)) := by
  intro key
  rw [List.lookup_append]
  by_cases hkey : key ∈ added
  · obtain ⟨hmem, hnone⟩ := h key hkey
    exact .inr ⟨hmem, hnone, by rw [hnone, lookup_map_const, if_pos hkey]; rfl⟩
  · exact .inl (by rw [lookup_map_const, if_neg hkey, Option.or_none])

theorem Pads.lookup_eq (h : Pads none keys d d') (key : κ) (hkey : key ∉ keys) :
    d'.lookup key = d.lookup key := by
  rcases h key with heq | ⟨hmem, -⟩
  · exact heq
  · exact absurd hmem hkey

theorem Pads.getD_eq (h : Pads none keys d d') (key : κ) :
    (d'.lookup key).getD none = (d.lookup key).getD none := by
  rcases h key with heq | ⟨-, hnone, hsome⟩
  · rw [heq]
  · rw [hnone, hsome]
    rfl

theorem Pads.without (h : Pads none keys d d') (removed : List κ) :
    Pads none keys (d.without removed) (d'.without removed) := by
  intro key
  rw [lookup_without, lookup_without]
  by_cases hkey : key ∈ removed
  · exact .inl (by rw [if_pos hkey, if_pos hkey])
  · rw [if_neg hkey, if_neg hkey]
    exact h key

theorem Pads.set (h : Pads none keys d d') (key : κ) (value : α) :
    Pads none keys (d.set key value) (d'.set key value) := by
  intro key'
  rw [lookup_set, lookup_set]
  by_cases hkey : key' = key
  · exact .inl (by rw [if_pos hkey, if_pos hkey])
  · rw [if_neg hkey, if_neg hkey]
    exact h key'

theorem Pads.append (h : Pads none keys d d') (given : Dict κ α) :
    Pads none keys (given ++ d) (given ++ d') := by
  intro key
  rw [List.lookup_append, List.lookup_append]
  cases given.lookup key with
  | none => exact h key
  | some value => exact .inl rfl

end

end IotCore.Dict
