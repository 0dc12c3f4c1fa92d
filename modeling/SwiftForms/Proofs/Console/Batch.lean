import SwiftForms.Proofs.Compile.Division
import SwiftForms.Proofs.Compiler.Cached
import SwiftForms.Proofs.Console.Commands
import SwiftForms.Proofs.Form.Continuation
import SwiftForms.Proofs.Resolve.Closed
import SwiftForms.Proofs.Session.Batch

/-!
# The console and a single program

A program that compiles can be given to the console line by line. The console cuts it into inputs,
each as soon as its lines hold complete forms; none of them is a command, each of them compiles, and
their outputs one after another are the output of the program. It does not matter how the forms and
strings are spread over the lines.
-/

namespace SwiftForms

/-- What it takes for a program to compile without a text in front and without a cache. -/
theorem Compiler.compile_none_eq_ok {lib : Library} {source swift : Text} :
    ((Compiler.mk lib false).compile none source).result = .ok swift ↔
      ∃ final, compileUnder lib (.ofLibrary lib) source = .ok (swift, final) := by
  rw [Compiler.compile, Compiler.result_body_none]
  constructor
  · intro h
    obtain ⟨body, hbody, rfl⟩ := Fallible.map_eq_ok.mp h
    obtain ⟨⟨text, final⟩, htext, hpair⟩ := Fallible.bind_eq_ok.mp hbody
    cases hpair
    exact ⟨final, htext⟩
  · rintro ⟨final, hfinal⟩
    rw [compileBody, hfinal]
    rfl

/-- Whether a piece answers an input: it is no prompt and not the end. -/
def Piece.isReply : Piece → Bool
  | .prompt _ => false
  | .ending => false
  | _ => true

namespace Console

/-- The inputs that the console takes from complete lines and the rest after the last one, each with
the session in which it is taken. -/
def inputs (c : Console) : List Text → (last : Text) → List (Session × Text)
  | [], last =>
    if last.isEmpty then
      if c.pending.isEmpty then [] else [(c.session, c.pending)]
    else [(c.session, gather c.pending last)]
  | line :: lines, last =>
    let input := gather c.pending line
    if needsMore input then inputs { c with pending := input } lines last
    else
      let reply := handle c.session c.prologue input
      (c.session, input) ::
        if reply.leaves then [] else inputs ⟨reply.session, c.prologue, []⟩ lines last

/-- The replies to inputs. -/
def replies (prologue : Text) (taken : List (Session × Text)) : List Piece :=
  taken.flatMap fun (session, input) => (handle session prologue input).pieces

/-- What is shown for an input are replies. -/
theorem isReply_of_mem_handle {session : Session} {prologue input : Text} :
    ∀ piece ∈ (handle session prologue input).pieces, piece.isReply = true := by
  unfold handle
  split
  · exact List.forall_mem_nil _
  · rename_i rest _
    cases ConsoleCommand.ofWord ((Text.fields (.char ':' :: rest)).headD []) <;>
      simp [obey, Piece.isReply]
  · split <;> simp [Piece.isReply]

/-- All that is shown for an input is kept with the replies. -/
theorem filter_isReply_handle (session : Session) (prologue input : Text) :
    (handle session prologue input).pieces.filter Piece.isReply =
      (handle session prologue input).pieces :=
  List.filter_eq_self.mpr isReply_of_mem_handle

/-- What the console shows, apart from prompts and the end, are its replies to the inputs it takes. -/
theorem filter_isReply_transcript (c : Console) (lines : List Text) (last : Text) :
    (transcript c lines last).filter Piece.isReply = replies c.prologue (inputs c lines last) := by
  induction lines generalizing c with
  | nil =>
    rw [transcript, inputs]
    split
    · split <;> simp [Piece.isReply, replies, filter_isReply_handle]
    · simp [Piece.isReply, replies, filter_isReply_handle]
  | cons line lines ih =>
    rw [transcript, inputs]
    dsimp only
    split
    · exact ih { c with pending := gather c.pending line }
    · split
      · simp [Piece.isReply, replies, filter_isReply_handle]
      · have hlater :=
          ih ⟨(handle c.session c.prologue (gather c.pending line)).session, c.prologue, []⟩
        simp only [replies] at hlater
        simp [Piece.isReply, replies, filter_isReply_handle, hlater]

/-- An input that is no command and is answered by Swift text alone. -/
def IsSource (prologue : Text) (taken : Session × Text) : Prop :=
  taken.2.trim.startsWith ":" = false ∧
    ∀ piece ∈ (handle taken.1 prologue taken.2).pieces, ∃ swift, piece = .swift swift

/-- What the console does with an input that compiles: it shows the output and goes on under the scope
that the input leaves. -/
theorem handle_of_compileUnder {session : Session} {input swift : Text} {next : Scope}
    (hsymbols : session.scope.symbols = [])
    (h : compileUnder session.library session.scope input = .ok (swift, next)) (prologue : Text) :
    IsSource prologue (session, input) ∧
      (handle session prologue input).pieces.flatMap Piece.text = swift ∧
      (handle session prologue input).session = { session with scope := next } ∧
      (handle session prologue input).leaves = false := by
  have hwhole : compileUnder session.library session.scope (input ++ []) = .ok (swift, next) := by
    rw [List.append_nil, h]
  obtain ⟨hdrop, hcolon⟩ := start_of_compileUnder hsymbols hwhole
  have hcommand : input.trim.startsWith ":" = false := by
    rw [← Bool.not_eq_true]
    exact fun hstarts => hcolon ((Text.startsWith_singleton _ _).mp hstarts)
  cases htrim : input.trim with
  | nil =>
    have hhandle : handle session prologue input = ⟨[], session, false⟩ := by
      rw [handle, htrim]
    have hblank : input.dropWhile Glyph.isBlank = [] := by
      have hhead := Text.head?_trim input
      rw [htrim] at hhead
      exact List.head?_eq_none_iff.mp hhead.symm
    obtain ⟨forms, exprs, hread, hresolve, hrender⟩ := compileUnder_eq_ok.mp h
    obtain ⟨place, hplace⟩ := Reader.readForms_dropWhile_isSpace 0 .start input
    rw [read_eq, hplace, ← hdrop, hblank, Reader.readForms_nil] at hread
    cases hread
    cases hresolve
    cases hrender
    rw [IsSource, hhandle]
    exact ⟨⟨hcommand, List.forall_mem_nil _⟩, rfl, rfl, rfl⟩
  | cons g rest =>
    have hhandle : handle session prologue input =
        ⟨[.swift swift], { session with scope := next }, false⟩ := by
      have hg : g ≠ .char ':' := by
        rintro rfl
        exact hcolon (by rw [htrim, List.head?_cons])
      rw [handle, htrim]
      split
      · rename_i hnil
        cases hnil
      · rename_i hcons
        cases hcons
        exact absurd rfl hg
      · rw [Session.compile_of_ok h]
    rw [IsSource, hhandle]
    refine ⟨⟨hcommand, ?_⟩, List.append_nil swift, rfl, rfl⟩
    intro piece hpiece
    exact ⟨swift, List.mem_singleton.mp hpiece⟩

/-- What of a program is still to be taken: the lines gathered so far, the complete lines after them
and the rest after the last newline. -/
def remaining (pending : Text) (lines : List Text) (last : Text) : Text :=
  Text.join [newline] (if pending.isEmpty then lines ++ [last] else pending :: (lines ++ [last]))

/-- A line without its end. -/
def IsLine (line : Text) : Prop :=
  ∀ g ∈ line, g ≠ .char '\r' ∧ g ≠ newline

/-- Gathering cuts nothing off a line that is without its end. -/
theorem gather_eq {pending line : Text} (h : IsLine line) :
    gather pending line = if pending.isEmpty then line else pending ++ newline :: line := by
  have hcut : (line.dropEndWhile fun g => g = .char '\r' || g = .char '\n') = line := by
    refine Text.dropEndWhile_eq_self fun g hg => ?_
    obtain ⟨hreturn, hnewline⟩ := h g hg
    exact Bool.or_eq_false_iff.mpr ⟨decide_eq_false hreturn, decide_eq_false hnewline⟩
  rw [gather, hcut]
  rfl

/-- The next line is gathered, and the rest of the program stays what it is. -/
theorem remaining_cons {pending line : Text} (h : IsLine line) (lines : List Text) (last : Text) :
    remaining pending (line :: lines) last =
      gather pending line ++ newline :: remaining [] lines last := by
  have hne : lines ++ [last] ≠ [] := by simp
  rw [gather_eq h, remaining, remaining]
  cases pending with
  | nil => simp [Text.join_cons_of_ne_nil _ _ hne]
  | cons g more =>
    simp [Text.join_cons_of_ne_nil _ _ hne, Text.join_cons_cons]

/-- Gathered lines are a line of their own. -/
theorem remaining_of_ne_nil {pending : Text} (h : pending ≠ []) (lines : List Text) (last : Text) :
    remaining pending lines last = pending ++ newline :: remaining [] lines last := by
  have hne : lines ++ [last] ≠ [] := by simp
  cases pending with
  | nil => exact absurd rfl h
  | cons g more => simp [remaining, Text.join_cons_of_ne_nil _ _ hne]

/-- An input that must be continued is no command, and it ends inside something open. -/
theorem exists_of_needsMore {input : Text} (h : needsMore input = true) :
    ∃ e, read input = .error e ∧ e.fault.isIncomplete = true := by
  rw [needsMore] at h
  split at h
  · cases h
  · split at h
    · exact ⟨_, ‹_›, h⟩
    · cases h

/-- An input at the start of a program is complete as soon as it must not be continued. -/
theorem read_of_not_needsMore {lib : Library} {scope final : Scope} {input later swift : Text}
    (hsymbols : scope.symbols = [])
    (h : compileUnder lib scope (input ++ newline :: later) = .ok (swift, final))
    (hmore : needsMore input = false) : ∃ forms, read input = .ok forms := by
  obtain ⟨-, hcolon⟩ := start_of_compileUnder hsymbols h
  have hcommand : ¬ input.trim.startsWith ":" = true :=
    fun hstarts => hcolon ((Text.startsWith_singleton _ _).mp hstarts)
  rw [needsMore, if_neg hcommand] at hmore
  cases hread : read input with
  | ok forms => exact ⟨forms, rfl⟩
  | error e =>
    rw [hread] at hmore
    obtain ⟨forms, _, hforms, -⟩ := compileUnder_eq_ok.mp h
    rw [read_error_append_newline hread hmore] at hforms
    cases hforms

/-- What the console takes of a program that compiles. -/
theorem inputs_of_compileUnder (c : Console) (lines : List Text) (last : Text) {swift : Text}
    {final : Scope} (hsymbols : c.session.scope.symbols = [])
    (hpending : c.pending ≠ [] → ∃ e, read c.pending = .error e)
    (hlines : ∀ line ∈ lines ++ [last], IsLine line)
    (h : compileUnder c.session.library c.session.scope (remaining c.pending lines last) =
      .ok (swift, final)) :
    (∀ taken ∈ inputs c lines last, IsSource c.prologue taken) ∧
      (replies c.prologue (inputs c lines last)).flatMap Piece.text = swift := by
  induction lines generalizing c swift with
  | nil =>
    have hlast : IsLine last := hlines last (by simp)
    rw [inputs]
    cases hend : last.isEmpty with
    | true =>
      obtain rfl := List.isEmpty_iff.mp hend
      by_cases hempty : c.pending = []
      · rw [hempty] at h
        cases (compileUnder_nil _ _).symm.trans h
        simp [hempty, replies]
      · -- A newline is all that follows, and it mends nothing.
        obtain ⟨e, he⟩ := hpending hempty
        obtain ⟨again, hagain⟩ := read_error_append_end he
        obtain ⟨forms, _, hread, -⟩ := compileUnder_eq_ok.mp h
        have hwhole : remaining c.pending [] [] = c.pending ++ [newline] :=
          remaining_of_ne_nil hempty [] []
        rw [hwhole, hagain] at hread
        cases hread
    | false =>
      have hwhole : remaining c.pending [] last = gather c.pending last := by
        rw [gather_eq hlast, remaining]
        cases c.pending <;> simp [Text.join]
      rw [hwhole] at h
      obtain ⟨hsource, htext, -, -⟩ := handle_of_compileUnder hsymbols h c.prologue
      simp [replies, hsource, htext]
  | cons line lines ih =>
    have hline : IsLine line := hlines line (by simp)
    have hlater : ∀ later ∈ lines ++ [last], IsLine later :=
      fun later hmem => hlines later (List.mem_cons_of_mem line hmem)
    rw [remaining_cons hline] at h
    cases hmore : needsMore (gather c.pending line) with
    | true =>
      obtain ⟨e, he, -⟩ := exists_of_needsMore hmore
      have hne : gather c.pending line ≠ [] := by
        intro hnil
        rw [hnil, read_eq, Reader.readForms_nil] at he
        cases he
      rw [← remaining_of_ne_nil hne] at h
      rw [inputs, hmore]
      exact ih { c with pending := gather c.pending line } hsymbols (fun _ => ⟨e, he⟩) hlater h
    | false =>
      obtain ⟨forms, hread⟩ := read_of_not_needsMore hsymbols h hmore
      obtain ⟨before, after, middle, hbefore, hafter, rfl⟩ :=
        exists_of_compileUnder_append_newline hread h
      obtain ⟨hsource, htext, hsession, hleaves⟩ := handle_of_compileUnder hsymbols hbefore c.prologue
      have hmiddle : middle.symbols = [] := (symbols_of_compileUnder hbefore).trans hsymbols
      have hinputs : inputs c (line :: lines) last = (c.session, gather c.pending line) ::
          inputs ⟨⟨c.session.library, middle⟩, c.prologue, []⟩ lines last := by
        simp [inputs, hmore, hleaves, hsession]
      obtain ⟨hsources, htexts⟩ := ih ⟨⟨c.session.library, middle⟩, c.prologue, []⟩ hmiddle
        (fun hne => absurd rfl hne) hlater hafter
      rw [hinputs]
      refine ⟨List.forall_mem_cons.mpr ⟨hsource, hsources⟩, ?_⟩
      rw [replies, List.flatMap_cons, List.flatMap_append, htext]
      exact congrArg (before ++ ·) htexts

/-- An input is given as the lines that it has. -/
theorem splitInput_append (program : Text) :
    (splitInput program).1 ++ [(splitInput program).2] = program.lines := by
  have hne : program.lines ≠ [] := Text.splitOn_ne_nil _ program
  rw [splitInput, List.getLastD_eq_getLast?, List.getLast?_eq_some_getLast hne]
  exact List.dropLast_append_getLast hne

/-- A program that compiles is taken by the console as sources and nothing else, and what the console
answers to them is, one answer after another, the output of the program. -/
theorem transcript_eq_compile (lib : Library) {program swift : Text} (hreturn : .char '\r' ∉ program)
    (h : ((Compiler.mk lib false).compile none program).result = .ok swift) (prologue : Text) :
    let console : Console := ⟨.start lib, prologue, []⟩
    let lines := (splitInput program).1
    let last := (splitInput program).2
    let shown := (transcript console lines last).filter Piece.isReply
    shown = replies prologue (inputs console lines last) ∧
      (∀ taken ∈ inputs console lines last, taken.2.trim.startsWith ":" = false) ∧
      (∀ piece ∈ shown, ∃ text, piece = .swift text) ∧
      shown.flatMap Piece.text = swift := by
  intro console lines last shown
  obtain ⟨final, hfinal⟩ := Compiler.compile_none_eq_ok.mp h
  have hwhole : remaining [] lines last = program := by
    rw [remaining, List.isEmpty_nil, if_pos rfl, splitInput_append]
    exact Text.join_splitOn _ program
  have hlines : ∀ line ∈ lines ++ [last], IsLine line := by
    intro line hline g hg
    rw [splitInput_append] at hline
    obtain ⟨hmem, hne⟩ := Text.mem_of_mem_splitOn hline g hg
    exact ⟨fun hchar => hreturn (hchar ▸ hmem), hne⟩
  rw [← hwhole] at hfinal
  obtain ⟨hsources, htext⟩ :=
    inputs_of_compileUnder console lines last rfl (fun hne => absurd rfl hne) hlines hfinal
  have hshown : shown = replies prologue (inputs console lines last) :=
    filter_isReply_transcript console lines last
  refine ⟨hshown, fun taken htaken => (hsources taken htaken).1, ?_, hshown ▸ htext⟩
  intro piece hpiece
  rw [hshown] at hpiece
  obtain ⟨taken, htaken, hreply⟩ := List.mem_flatMap.mp hpiece
  exact (hsources taken htaken).2 piece hreply

/-- A program in which a form and a string go over several lines. -/
def scattered : Text :=
  "(defn f [a]\n\n  (- a\n \"x\n:y\"))  (f 1)\n(f\n2)"

/-- The output of that program. -/
def scatteredSwift : Text :=
  "@discardableResult\nfunc f(_ a: Value) -> Value \x7b\n    return (a - \"x :y\")\n\x7d\nf(1)\nf(2)\n"

/-- The forms of that program. -/
def scatteredForms : List Form :=
  [.group .round
      [.leaf .atom "defn" ⟨1, 1, 2⟩, .leaf .atom "f" ⟨6, 1, 7⟩,
        .group .square [.leaf .atom "a" ⟨9, 1, 10⟩] ⟨8, 1, 9⟩,
        .group .round
          [.leaf .atom "-" ⟨16, 3, 4⟩, .leaf .atom "a" ⟨18, 3, 6⟩,
            .leaf .string "\"x :y\"" ⟨21, 4, 2⟩] ⟨15, 3, 3⟩] ⟨0, 1, 1⟩,
    .group .round [.leaf .atom "f" ⟨32, 5, 9⟩, .leaf .number "1" ⟨34, 5, 11⟩] ⟨31, 5, 8⟩,
    .group .round [.leaf .atom "f" ⟨38, 6, 2⟩, .leaf .number "2" ⟨40, 7, 1⟩] ⟨37, 6, 1⟩]

/-- The expressions of that program. -/
def scatteredExprs : List Expr :=
  [.define "f" ["a"] [.call "-" [.symbol "a", .string "\"x :y\""]],
    .call "f" [.number "1"], .call "f" [.number "2"]]

/-- The console answers that program with its output, though it is cut inside forms and a string. -/
theorem transcript_scattered :
    ((Compiler.mk subtraction false).compile none scattered).result = .ok scatteredSwift ∧
      ((transcript ⟨.start subtraction, [], []⟩ (splitInput scattered).1
        (splitInput scattered).2).filter Piece.isReply).flatMap Piece.text = scatteredSwift := by
  have hread : read scattered = .ok scatteredForms := by
    with_unfolding_all rfl
  have hresolve : ∃ final, resolve (.ofLibrary subtraction) scatteredForms =
      .ok (scatteredExprs, final) := by
    rw [Scope.ofLibrary, reserved_subtraction]
    exact ⟨_, rfl⟩
  obtain ⟨final, hfinal⟩ := hresolve
  have hcompile := Compiler.compile_none_eq_ok.mpr
    ⟨final, compileUnder_eq_ok.mpr ⟨scatteredForms, scatteredExprs, hread, hfinal, rfl⟩⟩
  exact ⟨hcompile, (transcript_eq_compile subtraction (by decide) hcompile []).2.2.2⟩

end Console

end SwiftForms
