import SwiftForms.Proofs.Scope.Sound

/-!
# Building a library

The builtins of a library are checked and taken in one after another, each against the indexes of those
before it. Main statement: a list of builtins is refused exactly if one of them is faulty, with the first
cause of the first such builtin; a list that is not refused is kept as it is, its indexes are inverse to
it, and names and targets lead back to the builtins that have them.
-/

namespace SwiftForms

namespace Builtin

/-- The cause for which a builtin after those of `earlier` is refused. Of several causes the first one
counts: no name or no target, then a repeated name, then a repeated target, then the parameters. -/
inductive Refused (earlier : List Builtin) (b : Builtin) : LibraryFault → Prop
  /-- It has no name or no target. -/
  | unnamed (missing : b.name = [] ∨ b.target = []) : Refused earlier b (.unnamed earlier.length)
  /-- An earlier builtin has its name. -/
  | repeatedName (named : ¬ (b.name = [] ∨ b.target = [])) (again : ∃ e ∈ earlier, e.name = b.name) :
    Refused earlier b (.repeatedName b.name)
  /-- An earlier builtin has its target. -/
  | repeatedTarget (named : ¬ (b.name = [] ∨ b.target = []))
    (newName : ¬ ∃ e ∈ earlier, e.name = b.name) (again : ∃ e ∈ earlier, e.target = b.target) :
    Refused earlier b (.repeatedTarget b.target)
  /-- Its style needs two parameters. -/
  | wrongParameters (named : ¬ (b.name = [] ∨ b.target = []))
    (newName : ¬ ∃ e ∈ earlier, e.name = b.name) (newTarget : ¬ ∃ e ∈ earlier, e.target = b.target)
    (style : b.style ≠ .call) (params : b.params.length ≠ 2) :
    Refused earlier b (.wrongParameters b.name b.style)

/-- The builtin at a place of a list is faulty after those before it. -/
def FaultyAt (builtins : List Builtin) (i : Nat) : Prop :=
  ∃ b : Builtin, builtins[i]? = some b ∧ b.Faulty (builtins.take i)

end Builtin

namespace Catalog

variable {c : Catalog} {b : Builtin} {builtins : List Builtin} {fault : LibraryFault}

/-- The checks find the cause for which a builtin is refused. -/
theorem Sound.fault?_eq_some_iff (h : c.Sound) :
    c.fault? b = some fault ↔ b.Refused c.builtins fault := by
  constructor
  · intro hfault
    rw [fault?] at hfault
    split at hfault
    · cases hfault
      exact .unnamed ‹_›
    · split at hfault
      · rename_i hagain
        cases hfault
        exact .repeatedName ‹_› (h.names.isSome_iff.mp hagain)
      · rename_i hnewName
        split at hfault
        · rename_i hagain
          cases hfault
          exact .repeatedTarget ‹_› (mt h.names.isSome_iff.mpr hnewName)
            (h.targets.isSome_iff.mp hagain)
        · rename_i hnewTarget
          split at hfault
          · rename_i hstyle
            cases hfault
            exact .wrongParameters ‹_› (mt h.names.isSome_iff.mpr hnewName)
              (mt h.targets.isSome_iff.mpr hnewTarget) hstyle.1 hstyle.2
          · cases hfault
  · intro hrefused
    rw [fault?]
    cases hrefused with
    | unnamed missing => rw [if_pos missing]
    | repeatedName named again => rw [if_neg named, if_pos (h.names.isSome_iff.mpr again)]
    | repeatedTarget named newName again =>
      rw [if_neg named, if_neg (mt h.names.isSome_iff.mp newName),
        if_pos (h.targets.isSome_iff.mpr again)]
    | wrongParameters named newName newTarget style params =>
      rw [if_neg named, if_neg (mt h.names.isSome_iff.mp newName),
        if_neg (mt h.targets.isSome_iff.mp newTarget), if_pos ⟨style, params⟩]

/-- A catalog can be extended exactly if none of the builtins is faulty after those before it. -/
theorem Sound.extend_isOk_iff (h : c.Sound) :
    (∃ d, c.extend builtins = .ok d) ↔
      ∀ (i : Nat) (b : Builtin), builtins[i]? = some b →
        ¬ b.Faulty (c.builtins ++ builtins.take i) := by
  induction builtins generalizing c with
  | nil => simp [Catalog.extend]
  | cons first rest ih =>
    rw [Catalog.extend]
    cases hfault : c.fault? first with
    | some fault =>
      refine iff_of_false (by simp) fun hsound => ?_
      have hfirst := hsound 0 first rfl
      rw [List.take_zero, List.append_nil, ← h.fault?_eq_none_iff, hfault] at hfirst
      cases hfirst
    | none =>
      have hbuiltins : (c.add first).builtins = c.builtins ++ [first] := rfl
      simp only [ih (h.add hfault), hbuiltins, List.append_assoc, List.singleton_append]
      constructor
      · intro hsound i b hb
        cases i with
        | zero =>
          cases hb
          rw [List.take_zero, List.append_nil]
          exact h.fault?_eq_none_iff.mp hfault
        | succ i => exact hsound i b hb
      · intro hsound i b hb
        exact hsound (i + 1) b hb

/-- A catalog cannot be extended for the cause of the first builtin that is faulty after those before
it. -/
theorem Sound.extend_eq_error_iff (h : c.Sound) :
    c.extend builtins = .error fault ↔
      ∃ (i : Nat) (b : Builtin), builtins[i]? = some b ∧
        b.Refused (c.builtins ++ builtins.take i) fault ∧
        ∀ j < i, ∀ e : Builtin, builtins[j]? = some e →
          ¬ e.Faulty (c.builtins ++ builtins.take j) := by
  induction builtins generalizing c with
  | nil => simp [Catalog.extend]
  | cons first rest ih =>
    rw [Catalog.extend]
    cases hfault : c.fault? first with
    | some found =>
      constructor
      · intro hfound
        cases hfound
        refine ⟨0, first, rfl, ?_, fun j hj => absurd hj (Nat.not_lt_zero j)⟩
        rw [List.take_zero, List.append_nil]
        exact h.fault?_eq_some_iff.mp hfault
      · rintro ⟨i, b, hb, hi, hbefore⟩
        -- Something is found at the first builtin already, so that is the one.
        cases i with
        | zero =>
          cases hb
          rw [List.take_zero, List.append_nil, ← h.fault?_eq_some_iff, hfault] at hi
          rw [Option.some.inj hi]
        | succ i =>
          have hfirst := hbefore 0 (Nat.succ_pos i) first rfl
          rw [List.take_zero, List.append_nil, ← h.fault?_eq_none_iff, hfault] at hfirst
          cases hfirst
    | none =>
      have hbuiltins : (c.add first).builtins = c.builtins ++ [first] := rfl
      simp only [ih (h.add hfault), hbuiltins, List.append_assoc, List.singleton_append]
      constructor
      · rintro ⟨i, b, hb, hi, hbefore⟩
        refine ⟨i + 1, b, hb, hi, ?_⟩
        intro j hj e he
        cases j with
        | zero =>
          cases he
          rw [List.take_zero, List.append_nil]
          exact h.fault?_eq_none_iff.mp hfault
        | succ j => exact hbefore j (Nat.lt_of_succ_lt_succ hj) e he
      · rintro ⟨i, b, hb, hi, hbefore⟩
        cases i with
        | zero =>
          cases hb
          rw [List.take_zero, List.append_nil, ← h.fault?_eq_some_iff, hfault] at hi
          cases hi
        | succ i => exact ⟨i, b, hb, hi, fun j hj => hbefore (j + 1) (Nat.succ_lt_succ hj)⟩

end Catalog

namespace Library

variable {runtime : Text} {builtins : List Builtin}

/-- A library cannot be built exactly if its builtins cannot be added. -/
theorem build_eq_error_iff {fault : LibraryFault} :
    build runtime builtins = .error fault ↔ Catalog.empty.extend builtins = .error fault := by
  unfold build
  split
  · rename_i found hfound
    rw [hfound, Except.error.injEq, Except.error.injEq]
  · rename_i catalog hcatalog
    simp [hcatalog]

/-- A library that is built has the runtime and the builtins it is built of. -/
theorem eq_of_build {lib : Library} (h : build runtime builtins = .ok lib) :
    lib.runtime = runtime ∧ lib.builtins = builtins := by
  unfold build at h
  split at h
  · cases h
  · rename_i catalog hcatalog
    cases h
    have hbuiltins : catalog.builtins = Catalog.empty.builtins ++ builtins := by
      rw [Catalog.eq_of_extend hcatalog, Catalog.builtins_foldl_add]
    exact ⟨rfl, hbuiltins⟩

/-- A list of builtins is refused exactly if one of them is faulty, namely for the first cause of the
first one. Otherwise the library has the builtins in the order in which they are given, its indexes give a
place for a name or a target exactly if the builtin at that place has it, a name and a target are found
exactly if a builtin has them, and the functions that programs can call are the builtins, each under its
name with its target and its parameters. -/
theorem build_checked (runtime : Text) (builtins : List Builtin) :
    ((∃ fault, build runtime builtins = .error fault) ↔ ∃ i, Builtin.FaultyAt builtins i) ∧
    (∀ fault, build runtime builtins = .error fault ↔
      ∃ (i : Nat) (b : Builtin), builtins[i]? = some b ∧ b.Refused (builtins.take i) fault ∧
        ∀ j < i, ¬ Builtin.FaultyAt builtins j) ∧
    ∀ lib, build runtime builtins = .ok lib →
      lib.runtime = runtime ∧ lib.builtins = builtins ∧
      (∀ name place, lib.byName.find? name = some place ↔
        ∃ b, builtins[place]? = some b ∧ b.name = name) ∧
      (∀ target place, lib.byTarget.find? target = some place ↔
        ∃ b, builtins[place]? = some b ∧ b.target = target) ∧
      (∀ name b, lib.named? name = some b ↔ b ∈ builtins ∧ b.name = name) ∧
      (∀ target b, lib.targeted? target = some b ↔ b ∈ builtins ∧ b.target = target) ∧
      ∀ name d, (Scope.ofLibrary lib).function? name = some d ↔
        ∃ b ∈ builtins, b.name = name ∧ d = ⟨b.target, b.params, .external (some b.native)⟩ := by
  have hplace : ∀ i, ¬ Builtin.FaultyAt builtins i ↔
      ∀ b : Builtin, builtins[i]? = some b →
        ¬ b.Faulty (Catalog.empty.builtins ++ builtins.take i) := by
    intro i
    simp only [Builtin.FaultyAt, not_exists, not_and]
    rfl
  refine ⟨?_, ?_, ?_⟩
  · have hbuilt : (∃ fault, Catalog.empty.extend builtins = .error fault) ↔
        ¬ ∃ d, Catalog.empty.extend builtins = .ok d := by
      cases Catalog.empty.extend builtins <;> simp
    simp only [build_eq_error_iff]
    rw [hbuilt, Catalog.sound_empty.extend_isOk_iff, ← not_forall_not]
    exact not_congr (forall_congr' fun i => (hplace i).symm)
  · intro fault
    rw [build_eq_error_iff, Catalog.sound_empty.extend_eq_error_iff]
    simp only [hplace]
    rfl
  · intro lib hlib
    obtain ⟨hruntime, rfl⟩ := eq_of_build hlib
    exact ⟨hruntime, rfl, lib.sound.names, lib.sound.targets, fun _ _ => named?_eq_some_iff,
      fun _ _ => targeted?_eq_some_iff, fun _ _ => Scope.function?_ofLibrary⟩

end Library

end SwiftForms
