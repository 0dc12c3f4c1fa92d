import SwiftForms.Proofs.Compiler.Cached
import SwiftForms.Proofs.Form.RoundTrip
import SwiftForms.Proofs.Resolve.Closed
import SwiftForms.Proofs.Resolve.Relocation

/-!
# Layout

The spaces and line ends between the words of a program have no part in its meaning. Main statement:
two texts that are read into the same forms, apart from the places of the forms, compile to the same
Swift text and have the same outlines, or fail at the same stage with errors that differ in their
places alone. In particular a program can be printed on one line.
-/

namespace SwiftForms

open Fallible

/-- Both texts are read, into forms that differ at most in their places. -/
def Text.SameForms (source other : Text) : Prop :=
  ∃ forms again, read source = .ok forms ∧ read other = .ok again ∧
    forms.map Form.unplaced = again.map Form.unplaced

/-- Two errors of one stage after reading that say the same, apart from the place. -/
inductive CompileError.Agrees : CompileError → CompileError → Prop
  /-- The cause, the name, the number of arguments, the offending forms as they are printed, and so
  all that the message says after the place. -/
  | resolve {e other : ResolveError} (fault : e.fault = other.fault) (name : e.name = other.name)
    (want : e.want = other.want) (forms : e.forms.map Form.print = other.forms.map Form.print)
    (details : e.details = other.details) : Agrees (.resolve e) (.resolve other)
  /-- The message. -/
  | render {e other : RenderError} (message : e.message = other.message) :
    Agrees (.render e) (.render other)

/-- Two outcomes with the same result, or with errors that agree. -/
inductive SameOutcome {α : Type} : Except CompileError α → Except CompileError α → Prop
  /-- The same result. -/
  | ok (a : α) : SameOutcome (.ok a) (.ok a)
  /-- Errors that agree. -/
  | error {e other : CompileError} (agrees : e.Agrees other) : SameOutcome (.error e) (.error other)

mutual

/-- A form is printed alike wherever it stands. -/
theorem Form.print_relocate (move : Position → Position) :
    ∀ f : Form, (f.relocate move).print = f.print
  | .leaf _ _ _ => rfl
  | .group bracket children pos => by
    have hchildren := printForms_relocateForms move children
    rw [Form.relocate, Form.print, Form.print, hchildren]

/-- Forms are printed alike wherever they stand. -/
theorem printForms_relocateForms (move : Position → Position) :
    ∀ forms : List Form, printForms (relocateForms move forms) = printForms forms
  | [] => rfl
  | [form] => Form.print_relocate move form
  | form :: next :: rest => by
    have hfirst := Form.print_relocate move form
    have hrest := printForms_relocateForms move (next :: rest)
    rw [relocateForms] at hrest
    rw [relocateForms, relocateForms, printForms, printForms, hfirst, hrest]

end

/-- The printed forms of an error do not depend on places. -/
theorem map_print_relocateForms (move : Position → Position) (forms : List Form) :
    (relocateForms move forms).map Form.print = forms.map Form.print := by
  rw [relocateForms_eq_map, List.map_map]
  exact List.map_congr_left fun form _ => form.print_relocate move

/-- What an error says after its place does not depend on places. -/
theorem ResolveError.details_relocate (move : Position → Position) (e : ResolveError) :
    (e.relocate move).details = e.details := by
  have hempty : (relocateForms move e.forms).isEmpty = e.forms.isEmpty := by
    rw [relocateForms_eq_map, List.isEmpty_map]
  have hprint := printForms_relocateForms move e.forms
  have hlength := length_relocateForms move e.forms
  cases hfault : e.fault <;> simp only [details, relocate, hfault, hempty, hprint, hlength]

/-- Errors that are equal once their positions are left out agree. -/
theorem CompileError.Agrees.of_relocate {move : Position → Position} {e other : ResolveError}
    (h : e.relocate move = other.relocate move) : Agrees (.resolve e) (.resolve other) := by
  have hforms := congrArg (fun e => e.forms.map Form.print) h
  have hdetails := congrArg ResolveError.details h
  simp only [ResolveError.relocate, map_print_relocateForms] at hforms
  rw [ResolveError.details_relocate, ResolveError.details_relocate] at hdetails
  exact .resolve (congrArg ResolveError.fault h :) (congrArg ResolveError.name h :)
    (congrArg ResolveError.want h :) hforms hdetails

namespace SameOutcome

/-- Resolutions that are equal once positions are left out have the same outcome. -/
theorem of_mapError {α : Type} {move : Position → Position} {x y : Except ResolveError α}
    (h : x.mapError (ResolveError.relocate move) = y.mapError (ResolveError.relocate move)) :
    SameOutcome (x.mapError .resolve) (y.mapError .resolve) := by
  cases x with
  | ok a =>
    cases y with
    | ok b =>
      cases h
      exact .ok a
    | error other => cases h
  | error e =>
    cases y with
    | ok b => cases h
    | error other => exact .error (.of_relocate (Except.error.inj h))

/-- What is written has the same outcome as itself. -/
theorem refl_render {α : Type} (x : Except RenderError α) :
    SameOutcome (x.mapError CompileError.render) (x.mapError CompileError.render) := by
  cases x with
  | ok a => exact .ok a
  | error e => exact .error (.render rfl)

/-- Steps that follow the same outcome have the same outcome. -/
theorem bind {α β : Type} {x y : Except CompileError α} (h : SameOutcome x y)
    {f : α → Except CompileError β} (hf : ∀ a, SameOutcome (f a) (f a)) :
    SameOutcome (x >>= f) (y >>= f) := by
  cases h with
  | ok a => exact hf a
  | error agrees => exact .error agrees

/-- The same outcome stays the same when the result is mapped. -/
theorem map {α β : Type} {x y : Except CompileError α} (h : SameOutcome x y) (f : α → β) :
    SameOutcome (x.map f) (y.map f) := by
  cases h with
  | ok a => exact .ok (f a)
  | error agrees => exact .error agrees

end SameOutcome

/-- Texts with the same forms are resolved to the same expressions and the same scope. -/
theorem Text.SameForms.resolveSource {source other : Text} (h : source.SameForms other)
    (scope : Scope) :
    SameOutcome (SwiftForms.resolveSource scope source) (SwiftForms.resolveSource scope other) := by
  obtain ⟨forms, again, hread, hagain, hsame⟩ := h
  -- Both resolutions are compared with that of the forms whose positions are all the start.
  have hunplaced : relocateForms (fun _ => .start) forms = relocateForms (fun _ => .start) again := by
    rw [relocateForms_eq_map, relocateForms_eq_map]
    exact hsame
  have hresolve : (resolve scope forms).mapError (ResolveError.relocate fun _ => .start) =
      (resolve scope again).mapError (ResolveError.relocate fun _ => .start) := by
    rw [resolve, resolve, ← Resolve.sequence_relocate, ← Resolve.sequence_relocate, hunplaced]
  rw [SwiftForms.resolveSource, SwiftForms.resolveSource, hread, hagain]
  exact .of_mapError hresolve

/-- Texts with the same forms compile to the same text under any scope. -/
theorem Text.SameForms.compileUnder {source other : Text} (h : source.SameForms other)
    (lib : Library) (scope : Scope) :
    SameOutcome (SwiftForms.compileUnder lib scope source)
      (SwiftForms.compileUnder lib scope other) := by
  refine (h.resolveSource scope).bind fun pair => ?_
  exact (SameOutcome.refl_render (render lib pair.1)).bind fun swift => .ok _

/-- A text that is read has the same forms as these forms printed on one line. -/
theorem Text.sameForms_printForms {source : Text} {forms : List Form} (h : read source = .ok forms) :
    source.SameForms (printForms forms) := by
  obtain ⟨again, hread, hsame⟩ := readsBack_of_wellFormed (wellFormed_of_read h)
  exact ⟨forms, again, h, hread, hsame.symm⟩

/-- A compiler without a cache does the same with two texts that have the same forms: it compiles both
to the same text or fails with errors that agree, and so for their outlines. A text and its forms
printed on one line are such texts. -/
theorem Compiler.compile_of_sameForms (c : Compiler) :
    (∀ source other : Text, source.SameForms other →
      SameOutcome (c.compile none source).result (c.compile none other).result ∧
        SameOutcome (c.outline source) (c.outline other)) ∧
    ∀ (source : Text) (forms : List Form), read source = .ok forms →
      source.SameForms (printForms forms) := by
  refine ⟨fun source other h => ⟨?_, ?_⟩, fun source forms => Text.sameForms_printForms⟩
  · have hbody : SameOutcome (compileBody c.library source) (compileBody c.library other) :=
      (h.compileUnder c.library (.ofLibrary c.library)).bind fun pair => .ok pair.1
    rw [compile, compile, result_body_none, result_body_none]
    exact hbody.map _
  · exact (h.resolveSource (.ofLibrary c.library)).bind fun pair => .ok _

/-- A call with too few arguments inside another call, over three lines. -/
def spreadCall : Text :=
  "(- 1\n\t(-\n 2))"

/-- The forms of the spread call. -/
def spreadForms : List Form :=
  [.group .round
    [.leaf .atom "-" ⟨1, 1, 2⟩, .leaf .number "1" ⟨3, 1, 4⟩,
      .group .round [.leaf .atom "-" ⟨7, 2, 3⟩, .leaf .number "2" ⟨10, 3, 2⟩] ⟨6, 2, 2⟩]
    ⟨0, 1, 1⟩]

/-- The spread call and the same call on one line fail alike, though at different places. -/
theorem Compiler.compile_spreadCall :
    read spreadCall = .ok spreadForms ∧ printForms spreadForms = Text.ofString "(- 1 (- 2))" ∧
      SameOutcome ((Compiler.mk subtraction true).compile none spreadCall).result
        ((Compiler.mk subtraction true).compile none "(- 1 (- 2))").result := by
  have hread : read spreadCall = .ok spreadForms := by
    with_unfolding_all rfl
  have hprint : printForms spreadForms = Text.ofString "(- 1 (- 2))" := by
    decide
  have hsame := (compile_of_sameForms ⟨subtraction, true⟩).2 spreadCall spreadForms hread
  rw [hprint] at hsame
  exact ⟨hread, hprint, ((compile_of_sameForms ⟨subtraction, true⟩).1 _ _ hsame).1⟩

end SwiftForms
