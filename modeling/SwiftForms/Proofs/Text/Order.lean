import SwiftForms.Text.Encoding

/-!
# Sorted texts

The order of texts is the lexicographic order of their bytes, so it is total and transitive, and
sorting yields the same texts in this order.
-/

namespace SwiftForms.Text

/-- Byte strings are compared as lists of bytes are. -/
theorem bytesLe_iff_le {a b : List UInt8} : bytesLe a b = true ↔ a ≤ b := by
  induction a generalizing b with
  | nil => simp [bytesLe]
  | cons x rest ih =>
    cases b with
    | nil => simp [bytesLe]
    | cons y later =>
      rw [bytesLe, List.cons_le_cons_iff]
      have hlt : x < y ↔ x.toNat < y.toNat := UInt8.lt_iff_toNat_lt
      have heq : x = y ↔ x.toNat = y.toNat := UInt8.toNat_inj.symm
      rw [hlt]
      by_cases hxy : x = y
      · rw [if_pos hxy, ih]
        have hsame := heq.mp hxy
        constructor
        · intro h
          exact .inr ⟨hxy, h⟩
        · rintro (h | ⟨_, h⟩)
          · omega
          · exact h
      · rw [if_neg hxy, decide_eq_true_eq]
        have hdiffer := mt heq.mpr hxy
        constructor
        · intro h
          exact .inl (by omega)
        · rintro (h | ⟨h, _⟩)
          · omega
          · exact absurd h hxy

/-- Of two texts one does not come after the other. -/
theorem le_total (t u : Text) : le t u || le u t := by
  rw [Bool.or_eq_true]
  exact (List.le_total t.bytes u.bytes).imp bytesLe_iff_le.mpr bytesLe_iff_le.mpr

/-- A text that does not come after another does not come after what does not precede that one. -/
theorem le_trans (t u v : Text) (htu : le t u = true) (huv : le u v = true) : le t v = true :=
  bytesLe_iff_le.mpr (List.le_trans (bytesLe_iff_le.mp htu) (bytesLe_iff_le.mp huv))

/-- A list that holds the same texts as another one, in order. -/
structure Sorts (ordered ts : List Text) : Prop where
  /-- It holds the same texts. -/
  perm : ordered.Perm ts
  /-- It is in order. -/
  pairwise : ordered.Pairwise fun t u => le t u = true

/-- Sorting puts the texts of a list in order. -/
theorem sorts_sort (ts : List Text) : Sorts (sort ts) ts :=
  ⟨List.mergeSort_perm ts le, List.pairwise_mergeSort le_trans le_total ts⟩

/-- The texts of a list in order that have a property are in order. -/
theorem Sorts.filter {ordered ts : List Text} (h : Sorts ordered ts) (p : Text → Bool) :
    Sorts (ordered.filter p) (ts.filter p) :=
  ⟨h.perm.filter p, h.pairwise.filter p⟩

/-- A list in order stays so for another list with the same texts. -/
theorem Sorts.of_perm {ordered ts us : List Text} (h : Sorts ordered ts) (hperm : ts.Perm us) :
    Sorts ordered us :=
  ⟨h.perm.trans hperm, h.pairwise⟩

end SwiftForms.Text
