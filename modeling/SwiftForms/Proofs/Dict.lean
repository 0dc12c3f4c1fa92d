import SwiftForms.Dict

/-!
# The pairs of a dictionary

A dictionary in which no key stands twice is given by its pairs: a key has a value exactly when the
pair of the two is there. Setting a new key puts a pair in front of the others.
-/

namespace SwiftForms.Dict

variable {α : Type}

/-- A value that is found at a key stands there. -/
theorem mem_of_find? {d : Dict α} {key : Text} {value : α} (h : d.find? key = some value) :
    (key, value) ∈ d.pairs := by
  obtain ⟨pair, hpair, hvalue⟩ := Option.map_eq_some_iff.mp h
  have hkey := List.find?_some hpair
  rw [decide_eq_true_eq] at hkey
  subst hkey hvalue
  exact List.mem_of_find?_eq_some hpair

/-- A pair of a dictionary without repeated keys is found by its key. -/
theorem find?_of_mem {d : Dict α} {key : Text} {value : α} (hkeys : d.keys.Nodup)
    (h : (key, value) ∈ d.pairs) : d.find? key = some value := by
  obtain ⟨pairs⟩ := d
  simp only [keys] at hkeys
  induction pairs with
  | nil => simp at h
  | cons first rest ih =>
    rw [List.map_cons] at hkeys
    obtain ⟨hnew, hrest⟩ := List.nodup_cons.mp hkeys
    rcases List.mem_cons.mp h with heq | hmem
    · simp [find?, ← heq]
    · have hne : first.1 ≠ key := by
        intro heq
        exact hnew (List.mem_map.mpr ⟨(key, value), hmem, heq.symm⟩)
      have hfound := ih hrest hmem
      simpa [find?, hne] using hfound

/-- A key without a value stands in no pair. -/
theorem not_mem_keys_of_find? {d : Dict α} {key : Text} (h : d.find? key = none) : key ∉ d.keys := by
  intro hmem
  obtain ⟨pair, hpair, rfl⟩ := List.mem_map.mp hmem
  have hnone := List.find?_eq_none.mp (Option.map_eq_none_iff.mp h) pair hpair
  simp at hnone

/-- Setting a new key puts a pair in front. -/
theorem pairs_insert_of_new {d : Dict α} {key : Text} (value : α) (h : d.find? key = none) :
    (d.insert key value).pairs = (key, value) :: d.pairs := by
  have hnew := not_mem_keys_of_find? h
  rw [insert, erase, List.filter_eq_self.mpr]
  intro pair hpair
  rw [decide_eq_true_eq]
  intro heq
  exact hnew (heq ▸ List.mem_map_of_mem hpair)

end SwiftForms.Dict
