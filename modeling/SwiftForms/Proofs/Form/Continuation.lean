import SwiftForms.Proofs.Form.Concatenation

/-!
# Faults and what follows

What a newline and more text can do to a text that cannot be read. A text that ends inside something
open may be mended by more text, but not by a newline alone. Any other fault stays what it is: the
same error comes back, whatever follows.
-/

namespace SwiftForms

namespace Reader

/-- A search that a bracket of the wrong kind has ended does not look at what follows. -/
theorem enclose_append_of_mismatched {outer : Bracket} {mode : Mode} {inner : List Bracket}
    {t seen : Text} (h : enclose outer mode inner t = .mismatched seen) (u : Text) :
    enclose outer mode inner (t ++ u) = .mismatched seen := by
  induction t generalizing mode inner seen with
  | nil => cases mode <;> cases h
  | cons g tail ih =>
    rw [enclose_cons] at h
    rw [List.cons_append, enclose_cons]
    cases hturn : turn outer mode inner g with
    | onward mode' inner' =>
      rw [hturn] at h
      cases hlater : enclose outer mode' inner' tail with
      | mismatched seen' =>
        simp only [hlater] at h
        simp only [ih hlater, h]
      | closed interior rest => simp [hlater, Enclosed.cons] at h
      | openString => simp [hlater, Enclosed.cons] at h
      | openForm => simp [hlater, Enclosed.cons] at h
    | found =>
      rw [hturn] at h
      cases h
    | wrong =>
      rw [hturn] at h
      exact h

/-- A fault other than an open end stays at the head of a text when a newline and more text follow, as
long as brackets can still be opened. -/
theorem head_fault_append_newline {depth : Nat} (hdepth : depth < maxDepth) {t fragment : Text}
    {fault : ReadFault} (h : head depth t = .fault fault fragment)
    (hcomplete : fault.isIncomplete = false) (u : Text) :
    head depth (t ++ newline :: u) = .fault fault fragment := by
  cases t with
  | nil => cases h
  | cons g rest =>
    rw [List.cons_append]
    cases hrole : g.role with
    | space => simp [head, hrole] at h
    | closes bracket => simpa only [head, hrole] using h
    | quote =>
      cases hclose : closeString rest with
      | none =>
        simp only [head, hrole, hclose, Head.fault.injEq] at h
        obtain ⟨rfl, -⟩ := h
        cases hcomplete
      | some pair => simp [head, hrole, hclose] at h
    | opens bracket =>
      simp only [head, hrole, if_neg (Nat.not_le.mpr hdepth)] at h ⊢
      cases henclose : enclose bracket .code [] rest with
      | closed interior after => simp [henclose] at h
      | openString =>
        simp only [henclose, Head.fault.injEq] at h
        obtain ⟨rfl, -⟩ := h
        cases hcomplete
      | openForm =>
        simp only [henclose, Head.fault.injEq] at h
        obtain ⟨rfl, -⟩ := h
        cases hcomplete
      | mismatched seen =>
        rw [henclose] at h
        rw [enclose_append_of_mismatched henclose]
        exact h
    | plain =>
      simp only [head, hrole, takeWhile_append_newline] at h ⊢
      cases hkind : classify (Text.normal (g :: rest.takeWhile fun h => !h.isSpace)) with
      | ok kind => simp [hkind] at h
      | error fault' =>
        rw [hkind] at h
        exact h

/-- A newline closes no string. -/
theorem closeString_append_newline {t : Text} (h : closeString t = none) :
    closeString (t ++ [newline]) = none := by
  fun_induction closeString t with
  | case1 => rfl
  | case2 tail => cases h
  | case3 g tail ih =>
    simp only [List.cons_append, closeString, ih (Option.map_eq_none_iff.mp h), Option.map_none]
  | case4 g tail hquote hescape ih =>
    have hlater := ih (Option.map_eq_none_iff.mp h)
    cases tail with
    | nil =>
      by_cases hg : g = .char '\\'
      · subst hg
        rfl
      · rw [List.cons_append, closeString.eq_4 g _ hquote fun _ _ hescape _ => hg hescape, hlater]
        rfl
    | cons next others =>
      rw [List.cons_append,
        closeString.eq_4 g _ hquote fun _ _ hg _ => hescape next others hg rfl, hlater]
      rfl

/-- A newline closes no bracket. -/
theorem enclose_append_newline {outer : Bracket} {mode : Mode} {inner : List Bracket} {t : Text}
    (h : ∀ interior rest, enclose outer mode inner t ≠ .closed interior rest) :
    ∀ interior rest, enclose outer mode inner (t ++ [newline]) ≠ .closed interior rest := by
  induction t generalizing mode inner with
  | nil =>
    cases mode <;> nofun
  | cons g tail ih =>
    intro interior rest hclosed
    rw [enclose_cons] at h
    rw [List.cons_append, enclose_cons] at hclosed
    cases hturn : turn outer mode inner g with
    | onward mode' inner' =>
      simp only [hturn] at h hclosed
      obtain ⟨inside, rfl, hinside⟩ := Enclosed.cons_eq_closed hclosed
      refine ih (fun inside' rest' hclosed' => ?_) inside rest hinside
      exact h (g :: inside') rest' (by rw [hclosed', Enclosed.cons])
    | found =>
      simp only [hturn] at h
      exact h [] tail rfl
    | wrong =>
      simp only [hturn] at hclosed
      cases hclosed

/-- A newline mends no fault at the head of a text. -/
theorem head_fault_append_end {depth : Nat} {t : Text} {fault : ReadFault} {fragment : Text}
    (h : head depth t = .fault fault fragment) :
    ∃ fault' fragment', head depth (t ++ [newline]) = .fault fault' fragment' := by
  cases t with
  | nil => cases h
  | cons g rest =>
    rw [List.cons_append]
    cases hrole : g.role with
    | space => simp [head, hrole] at h
    | closes bracket =>
      simp only [head, hrole]
      exact ⟨_, _, rfl⟩
    | quote =>
      cases hclose : closeString rest with
      | none =>
        simp only [head, hrole, closeString_append_newline hclose]
        exact ⟨_, _, rfl⟩
      | some pair => simp [head, hrole, hclose] at h
    | opens bracket =>
      simp only [head, hrole] at h ⊢
      split at h
      · rw [if_pos ‹_›]
        exact ⟨_, _, rfl⟩
      · rw [if_neg ‹_›]
        have hopen : ∀ interior after, enclose bracket .code [] rest ≠ .closed interior after := by
          intro interior after hclosed
          simp [hclosed] at h
        cases henclose : enclose bracket .code [] (rest ++ [newline]) with
        | closed interior after => exact absurd henclose (enclose_append_newline hopen interior after)
        | openString => exact ⟨_, _, rfl⟩
        | openForm => exact ⟨_, _, rfl⟩
        | mismatched seen => exact ⟨_, _, rfl⟩
    | plain =>
      simp only [head, hrole, takeWhile_append_newline] at h ⊢
      cases hkind : classify (Text.normal (g :: rest.takeWhile fun h => !h.isSpace)) with
      | ok kind => simp [hkind] at h
      | error fault' => exact ⟨_, _, rfl⟩

/-- An error comes back when a newline and more text follow if a fault at the head does. `P` says what
is to be known of the error. -/
theorem readForms_error_append {depth : Nat} {pos : Position} {t u : Text} {e : ReadError}
    {P : ReadError → Prop} (he : P e)
    (hfault : ∀ t : Text, head depth t = .fault e.fault e.fragment →
      ∃ fault fragment, head depth (t ++ newline :: u) = .fault fault fragment ∧
        P ⟨fault, fragment, e.pos⟩)
    (h : readForms depth pos t = .error e) :
    ∃ again, readForms depth pos (t ++ newline :: u) = .error again ∧ P again := by
  induction depth, pos, t using head_induction with
  | done depth pos t hhead =>
    rw [readForms_eq, hhead] at h
    cases h
  | fault depth pos t fault fragment hhead =>
    rw [readForms_eq, hhead] at h
    cases h
    obtain ⟨fault', fragment', hhead', hP⟩ := hfault t hhead
    exact ⟨_, by rw [readForms_eq, hhead'], hP⟩
  | space depth pos t g rest hhead ih =>
    rw [readForms_eq, hhead] at h
    rw [readForms_eq, head_append_newline (by simp [hhead]), hhead]
    exact ih hfault h
  | word depth pos t kind spelled rest hhead ih =>
    rw [readForms_eq, hhead] at h
    rw [readForms_eq, head_append_newline (by simp [hhead]), hhead]
    rcases Fallible.bind_eq_error.mp h with hrest | ⟨forms, -, hforms⟩
    · obtain ⟨again, hagain, hP⟩ := ih hfault hrest
      exact ⟨again, Fallible.bind_eq_error.mpr (.inl hagain), hP⟩
    · cases hforms
  | group depth pos t bracket interior rest hhead ihinside ihrest =>
    -- What the brackets enclose is the same text, whatever follows them.
    rw [readForms_eq, hhead] at h
    rw [readForms_eq, head_append_newline (by simp [hhead]), hhead]
    rcases Fallible.bind_eq_error.mp h with hinside | ⟨children, hchildren, hlater⟩
    · exact ⟨e, Fallible.bind_eq_error.mpr (.inl hinside), he⟩
    · rcases Fallible.bind_eq_error.mp hlater with hrest | ⟨forms, -, hforms⟩
      · obtain ⟨again, hagain, hP⟩ := ihrest hfault hrest
        exact ⟨again, Fallible.bind_eq_error.mpr
          (.inr ⟨children, hchildren, Fallible.bind_eq_error.mpr (.inl hagain)⟩), hP⟩
      · cases hforms

end Reader

/-- An error other than an open end comes back whatever follows after a newline. -/
theorem read_error_append_newline {t : Text} {e : ReadError} (h : read t = .error e)
    (hcomplete : e.fault.isIncomplete = false) (u : Text) : read (t ++ newline :: u) = .error e := by
  rw [read_eq] at h ⊢
  obtain ⟨again, hagain, rfl⟩ : ∃ again,
      Reader.readForms 0 .start (t ++ newline :: u) = .error again ∧ again = e := by
    refine Reader.readForms_error_append rfl (fun t hhead => ?_) h
    exact ⟨_, _, Reader.head_fault_append_newline (by decide) hhead hcomplete u, rfl⟩
  exact hagain

/-- A newline at its end makes no text readable. -/
theorem read_error_append_end {t : Text} {e : ReadError} (h : read t = .error e) :
    ∃ again, read (t ++ [newline]) = .error again := by
  rw [read_eq] at h ⊢
  obtain ⟨again, hagain, -⟩ : ∃ again,
      Reader.readForms 0 .start (t ++ [newline]) = .error again ∧ True := by
    refine Reader.readForms_error_append trivial (fun t hhead => ?_) h
    obtain ⟨fault, fragment, hfault⟩ := Reader.head_fault_append_end hhead
    exact ⟨fault, fragment, hfault, trivial⟩
  exact ⟨again, hagain⟩

end SwiftForms
