import SwiftForms.Proofs.Compiler.Cached
import SwiftForms.Workshop

/-!
# A shared cache is transparent

Compilers are opened one after another over one store with metadata, compile and are closed, while at
any moment any service of the store may go out of order and its room may be limited. Main statement:
every compilation has the answer that a compiler with the same library and the same setting gives
without a cache.
-/

namespace SwiftForms

namespace Workshop

/-- What happens in a workshop whose store is used by compilers only. -/
inductive Event where
  /-- The open compiler is closed and another one is opened, if there is a library for it. -/
  | opening (library : Except LibraryFault Library) (withPrologue : Bool)
  /-- The open compiler is closed. -/
  | closing
  /-- A source is compiled. -/
  | compile (source : Text)
  /-- From now on these services are out of order and there is room for these states only. -/
  | disturbance (outages : List (Service × Text)) (room : Store → Bool)

/-- The library that a compiler is to be opened with. -/
def Event.library? : Event → Option Library
  | .opening (.ok lib) _ => some lib
  | _ => none

/-- The answer to an event and the workshop after it. -/
def meet (w : Workshop) : Event → WorkshopAnswer × Workshop
  | .opening library withPrologue =>
    let outcome := w.step (.opening library withPrologue)
    (outcome.1, outcome.2.2)
  | .closing =>
    let outcome := w.step .closing
    (outcome.1, outcome.2.2)
  | .compile source =>
    let outcome := w.step (.compile source)
    (outcome.1, outcome.2.2)
  | .disturbance outages room =>
    (.done, { w with shared := { w.shared with outages := outages, room := room } })

/-- Events one after another, each with its answer. -/
def transcript (w : Workshop) : List Event → List (Event × WorkshopAnswer)
  | [] => []
  | event :: rest => (event, (w.meet event).1) :: (w.meet event).2.transcript rest

/-- The compiler that is open after an event with its answer: one that has been opened since the last
closing. -/
def openAfter (current : Option Compiler) : Event → WorkshopAnswer → Option Compiler
  | .opening (.ok lib) withPrologue, .done => some ⟨lib, withPrologue⟩
  | .opening _ _, _ => none
  | .closing, _ => none
  | .compile _, _ => current
  | .disturbance _ _, _ => current

/-- The answer of an open compiler that has no cache. -/
def uncachedAnswer (current : Option Compiler) (source : Text) : WorkshopAnswer :=
  match current with
  | none => .noCompiler
  | some c => answerOf (c.compile none source).result

/-- Every compilation in a transcript has the answer of a compiler without a cache. -/
def Transparent (current : Option Compiler) : List (Event × WorkshopAnswer) → Prop
  | [] => True
  | (event, answer) :: rest =>
    (∀ source, event = .compile source → answer = uncachedAnswer current source) ∧
      Transparent (openAfter current event answer) rest

/-- A workshop with a trusted store, in which this compiler is open, and the store has the mark of its
library. -/
structure Sound (libs : List Library) (w : Workshop) (current : Option Compiler) : Prop where
  /-- The compilers share the store. -/
  sharing : w.sharing = .shared ∨ w.sharing = .database
  /-- The store can be trusted. -/
  trusted : w.shared.Trusted libs
  /-- The open compiler. -/
  bench : w.bench.map Bench.compiler = current
  /-- Its library is one of these and has marked the store. -/
  marked : ∀ c, current = some c → c.library ∈ libs ∧ c.library.fingerprint = w.shared.mark

variable {libs : List Library} {w : Workshop} {current : Option Compiler}

/-- A workshop in which nothing has been done is sound. -/
theorem sound_start {sharing : Sharing} (h : sharing = .shared ∨ sharing = .database) :
    (start sharing).Sound libs none := by
  rcases h with rfl | rfl
  · exact ⟨.inl rfl, ⟨rfl, Cache.faithful_of_none fun _ => rfl⟩, rfl, fun _ h => by cases h⟩
  · exact ⟨.inr rfl, ⟨rfl, Cache.faithful_of_none fun _ => rfl⟩, rfl, fun _ h => by cases h⟩

/-- The cache at a bench is the store that the compilers share. -/
theorem Sound.cacheAt (h : w.Sound libs current) (b : Bench) : w.cacheAt b = some w.shared := by
  rcases h.sharing with hs | hs <;> rw [Workshop.cacheAt, hs]

/-- A cache that a compiler leaves is the store that the compilers share. -/
theorem Sound.withCache (h : w.Sound libs current) (cache : Cache) (bench : Option Bench) :
    w.withCache (some cache) bench = { w with shared := cache, bench := bench } := by
  rcases h.sharing with hs | hs <;> rw [Workshop.withCache, hs] <;> rfl

/-- Without its compiler a workshop stays sound. -/
theorem Sound.closed (h : w.Sound libs current) : { w with bench := none }.Sound libs none :=
  ⟨h.sharing, h.trusted, rfl, fun _ hnone => by cases hnone⟩

/-- The next compiler is opened over a trusted cache. -/
theorem Sound.cacheForNext (h : w.Sound libs current) {cache : Option Cache}
    (hcache : w.cacheForNext = .ok cache) : ∃ c, cache = some c ∧ c.Trusted libs := by
  rcases h.sharing with hs | hs
  · simp only [Workshop.cacheForNext, hs, Except.ok.injEq] at hcache
    exact ⟨w.shared, hcache.symm, h.trusted⟩
  · simp only [Workshop.cacheForNext, hs] at hcache
    obtain ⟨store, hreopen, rfl⟩ := Fallible.map_eq_ok.mp hcache
    refine ⟨w.shared.withStore store, rfl, h.trusted.metadata, ?_⟩
    rcases Store.held_of_reopen hreopen with hnone | ⟨hheld, hnoted⟩
    · exact Cache.faithful_of_none hnone
    · exact h.trusted.faithful.congr hheld (hnoted _ (by decide))

/-- Opening a compiler leaves a sound workshop, in which the compiler is open if all went well. -/
theorem Sound.openCompiler (h : w.Sound libs none) {library : Except LibraryFault Library}
    (hlib : ∀ lib, library = .ok lib → lib ∈ libs) (withPrologue : Bool) :
    (w.openCompiler library withPrologue).2.2.Sound libs
      (openAfter current (.opening library withPrologue)
        (w.openCompiler library withPrologue).1) := by
  cases library with
  | error fault => exact h
  | ok lib =>
    cases hcache : w.cacheForNext with
    | error e =>
      simp only [Workshop.openCompiler, hcache]
      exact h
    | ok cache =>
      obtain ⟨c, rfl, hc⟩ := h.cacheForNext hcache
      obtain ⟨after, hafter, htrusted, hopened⟩ := Compiler.opened_trusted hc lib withPrologue
      simp only [Workshop.openCompiler, hcache, hafter]
      cases hresult : (Compiler.opened lib withPrologue (some c)).result with
      | error e =>
        simp only [h.withCache]
        exact ⟨h.sharing, htrusted, rfl, fun _ hnone => by cases hnone⟩
      | ok compiler =>
        obtain ⟨rfl, hmark⟩ := hopened compiler hresult
        simp only [h.withCache]
        refine ⟨h.sharing, htrusted, rfl, ?_⟩
        intro c hsome
        cases hsome
        exact ⟨hlib lib rfl, hmark.symm⟩

/-- Compiling gives the answer of the open compiler without a cache and leaves a sound workshop. -/
theorem Sound.compile (hdistinct : Library.Distinguished libs) (h : w.Sound libs current)
    (source : Text) :
    (w.step (.compile source)).1 = uncachedAnswer current source ∧
      (w.step (.compile source)).2.2.Sound libs current := by
  cases hbench : w.bench with
  | none =>
    have hcurrent : current = none := by rw [← h.bench, hbench, Option.map_none]
    simp only [step, atBench, hbench, hcurrent, uncachedAnswer, true_and]
    exact hcurrent ▸ h
  | some b =>
    have hcurrent : current = some b.compiler := by rw [← h.bench, hbench, Option.map_some]
    obtain ⟨hlib, hmark⟩ := h.marked b.compiler hcurrent
    obtain ⟨hresult, after, hafter, htrusted, hsame⟩ :=
      Compiler.body_trusted hdistinct h.trusted hlib hmark source
    simp only [step, atBench, hbench, h.cacheAt, Compiler.compile, hafter, h.withCache, hcurrent,
      uncachedAnswer, hresult, Compiler.result_body_none, true_and]
    refine ⟨h.sharing, htrusted, rfl, ?_⟩
    intro c hsome
    cases hsome
    exact ⟨hlib, hmark.trans hsame.symm⟩

/-- One event: a compilation has the answer of a compiler without a cache, and the workshop stays
sound. -/
theorem Sound.meet (hdistinct : Library.Distinguished libs) (h : w.Sound libs current) {event : Event}
    (hlib : ∀ lib, event.library? = some lib → lib ∈ libs) :
    (∀ source, event = .compile source → (w.meet event).1 = uncachedAnswer current source) ∧
      (w.meet event).2.Sound libs (openAfter current event (w.meet event).1) := by
  cases event with
  | opening library withPrologue =>
    have hlibrary : ∀ lib, library = .ok lib → lib ∈ libs := by
      rintro lib rfl
      exact hlib lib rfl
    exact ⟨nofun, h.closed.openCompiler hlibrary withPrologue⟩
  | closing => exact ⟨nofun, h.closed⟩
  | compile source =>
    obtain ⟨hanswer, hsound⟩ := h.compile hdistinct source
    refine ⟨?_, hsound⟩
    intro other heq
    cases heq
    exact hanswer
  | disturbance outages room =>
    exact ⟨nofun, h.sharing, ⟨h.trusted.metadata, h.trusted.faithful⟩, h.bench, h.marked⟩

/-- All events in a sound workshop: every compilation has the answer of a compiler without a cache. -/
theorem Sound.transcript (hdistinct : Library.Distinguished libs) {events : List Event}
    (h : w.Sound libs current) (hlibs : ∀ lib ∈ events.filterMap Event.library?, lib ∈ libs) :
    Transparent current (w.transcript events) := by
  induction events generalizing w current with
  | nil => trivial
  | cons event rest ih =>
    have hfirst : ∀ lib, event.library? = some lib → lib ∈ libs := fun lib hlib =>
      hlibs lib (List.mem_filterMap.mpr ⟨event, List.mem_cons_self, hlib⟩)
    have hrest : ∀ lib ∈ rest.filterMap Event.library?, lib ∈ libs := by
      intro lib hlib
      obtain ⟨later, hlater, hlibrary⟩ := List.mem_filterMap.mp hlib
      exact hlibs lib (List.mem_filterMap.mpr ⟨later, List.mem_cons_of_mem _ hlater, hlibrary⟩)
    obtain ⟨hanswer, hsound⟩ := h.meet hdistinct hfirst
    exact ⟨hanswer, ih hsound hrest⟩

/-- Over one store with metadata, whatever goes out of order and whenever, each compilation has the
answer that the open compiler gives without a cache, provided that the libraries in use have different
fingerprints if they differ. -/
theorem transcript_transparent {sharing : Sharing} (hsharing : sharing = .shared ∨ sharing = .database)
    (events : List Event) (hdistinct : Library.Distinguished (events.filterMap Event.library?)) :
    Transparent none ((start sharing).transcript events) :=
  (sound_start hsharing).transcript hdistinct fun _ hlib => hlib

/-- A library with subtraction alone, written in one of two ways. -/
def minus (asOperator : Bool) : Library :=
  .ofBuiltins [] [⟨"-", "-", ["a", "b"], [], if asOperator then .chain else .call⟩]
    (by cases asOperator <;> decide)

/-- The two ways have different fingerprints. -/
theorem fingerprint_minus_ne : (minus true).fingerprint ≠ (minus false).fingerprint := by
  decide +kernel

/-- The two ways are told apart by their fingerprints. -/
theorem distinguished_minus : Library.Distinguished [minus true, minus false] := by
  intro a ha b hb hsame
  simp only [List.mem_cons, List.not_mem_nil, or_false] at ha hb
  rcases ha with rfl | rfl <;> rcases hb with rfl | rfl
  · rfl
  · exact absurd hsame fingerprint_minus_ne
  · exact absurd hsame.symm fingerprint_minus_ne
  · rfl

/-- A change of library that is cut off after the purge, since the new library cannot be recorded, and
is then made again. -/
def interruptedChange : List Event :=
  [.opening (.ok (minus true)) false, .compile "(- 3 1)", .compile "(- 3 1)",
   .disturbance [(.setMetadata, "down")] (fun _ => true), .opening (.ok (minus false)) false,
   .compile "(- 3 1)", .disturbance [(.get, "down")] (fun _ => true), .opening (.ok (minus false)) true,
   .compile "(- 3 1)", .closing, .opening (.ok (minus true)) false, .compile "(- 3 1)"]

/-- The two libraries of the interrupted change differ in their fingerprints. -/
theorem distinguished_interruptedChange :
    Library.Distinguished (interruptedChange.filterMap Event.library?) := by
  have hlibs : ∀ lib ∈ interruptedChange.filterMap Event.library?,
      lib ∈ [minus true, minus false] := by
    intro lib hlib
    have hmem : lib ∈ [minus true, minus false, minus false, minus true] := hlib
    grind
  intro a ha b hb hsame
  exact distinguished_minus a (hlibs a ha) b (hlibs b hb) hsame

/-- The compilations around the interrupted change have the answers of compilers without a cache. -/
theorem interruptedChange_transparent :
    Library.Distinguished (interruptedChange.filterMap Event.library?) ∧
      Transparent none ((start .shared).transcript interruptedChange) ∧
      Transparent none ((start .database).transcript interruptedChange) :=
  ⟨distinguished_interruptedChange,
    transcript_transparent (.inl rfl) interruptedChange distinguished_interruptedChange,
    transcript_transparent (.inr rfl) interruptedChange distinguished_interruptedChange⟩

end Workshop

end SwiftForms
