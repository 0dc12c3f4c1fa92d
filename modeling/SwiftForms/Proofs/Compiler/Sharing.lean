import SwiftForms.Proofs.Workshop.Transparency

/-!
# Compilers that are open at the same time

Several compilers may be open over one store, and their steps may come in any order. A store is
compared with the library of a compiler when the compiler is opened, never later, and only if it has
metadata. So a compilation may come from a compiler with another library. Main statement: a compiler
gives what its own library makes of a source, unless a compiler with another library has compiled that
very source over the store since the library was last seen to change.
-/

namespace SwiftForms

/-- Compiling leaves the mark of a cache, and in it what was there or what the library makes of the
source, which is then also the answer. -/
theorem Compiler.held_body (c : Compiler) (cache : Cache) (source : Text) :
    ∃ after, (c.body (some cache) source).cache = some after ∧
      after.hasMetadata = cache.hasMetadata ∧ after.mark = cache.mark ∧
      ∀ key e, after.store.held key = some e → cache.store.held key = some e ∨
        e.source = source ∧ compileBody c.library source = .ok e.output ∧
          (c.body (some cache) source).result = .ok e.output := by
  rcases c.body_cases cache source with
    ⟨_, _, _, _, _, hafter⟩ | ⟨hresult, after, hafter, rfl | ⟨swift, hswift, hput⟩⟩
  · exact ⟨cache, hafter, rfl, rfl, fun _ _ he => .inl he⟩
  · exact ⟨after, hafter, rfl, rfl, fun _ _ he => .inl he⟩
  · obtain ⟨hstore, hmetadata⟩ := Cache.store_of_put hput
    obtain ⟨hheld, hnoted⟩ := Store.held_of_put hstore
    refine ⟨after, hafter, hmetadata, hnoted _, ?_⟩
    intro key e he
    rw [hheld key] at he
    split at he
    · cases he
      exact .inr ⟨rfl, hswift, hresult.trans hswift⟩
    · exact .inl he

/-- Compilers that share a store. -/
structure Fleet where
  /-- The store, as the compilers see it. -/
  cache : Cache
  /-- The compilers, in the order in which they were opened. -/
  compilers : List Compiler
  /-- What has been compiled since the library was last seen to change, each source with its
  compiler. -/
  recent : List (Compiler × Text)

namespace Fleet

open Workshop (minus distinguished_minus fingerprint_minus_ne)

/-- A step of one compiler. -/
inductive Step where
  /-- Another compiler is opened. -/
  | opening (library : Library) (withPrologue : Bool)
  /-- The compiler with this number, from zero in the order of opening, compiles a source. -/
  | compile (number : Nat) (source : Text)

/-- A store over which no compiler has been opened. -/
def start (cache : Cache) : Fleet :=
  ⟨cache, [], []⟩

/-- Whether the library is seen to change when a compiler is opened: the store has metadata, and the
library of the compiler that was opened before it has another fingerprint. -/
def seesChange (f : Fleet) (lib : Library) : Bool :=
  f.cache.hasMetadata &&
    f.compilers.getLast?.any fun last => last.library.fingerprint ≠ lib.fingerprint

/-- The answer of the compiler with a number to a source. -/
def answer (f : Fleet) (number : Nat) (source : Text) : Option (Except CompileError Text) :=
  f.compilers[number]?.map fun c => (c.compile (some f.cache) source).result

/-- The compilers and their store after a step. A compiler that could not be opened is not there. -/
def after (f : Fleet) : Step → Fleet
  | .opening lib withPrologue =>
    let outcome := Compiler.opened lib withPrologue (some f.cache)
    match outcome.result with
    | .error _ => { f with cache := outcome.cache.getD f.cache }
    | .ok c =>
      ⟨outcome.cache.getD f.cache, f.compilers ++ [c], if f.seesChange lib then [] else f.recent⟩
  | .compile number source =>
    match f.compilers[number]? with
    | none => f
    | some c =>
      let outcome := c.compile (some f.cache) source
      let compiled := match outcome.result with
        | .ok _ => [(c, source)]
        | .error _ => []
      { f with cache := outcome.cache.getD f.cache, recent := f.recent ++ compiled }

/-- The compilers and their store after steps one after another. -/
def run (f : Fleet) : List Step → Fleet
  | [] => f
  | step :: rest => (f.after step).run rest

/-- It is known which compilers the compilations in the store may have come from. -/
structure Traced (f : Fleet) : Prop where
  /-- Each is what the library of a compiler makes of its source, and the compiler has compiled that
  source since the library was last seen to change. -/
  origin : ∀ key e, f.cache.store.held key = some e →
    ∃ c, (c, e.source) ∈ f.recent ∧ compileBody c.library e.source = .ok e.output
  /-- Metadata name the library of the compiler that was opened last. -/
  marked : f.cache.hasMetadata = true →
    ∀ last, f.compilers.getLast? = some last → f.cache.mark = last.library.fingerprint

variable {f : Fleet}

/-- Nothing has to be known about an empty store. -/
theorem traced_start {cache : Cache} (h : ∀ key, cache.store.held key = none) :
    (start cache).Traced := by
  refine ⟨?_, ?_⟩
  · intro key e he
    have hnone : (start cache).cache.store.held key = none := h key
    rw [hnone] at he
    cases he
  · intro _ last hlast
    cases hlast

/-- No change is seen where the metadata name the library already. -/
theorem Traced.seesChange_eq_false (h : f.Traced) {lib : Library}
    (hmark : f.cache.hasMetadata = true → f.cache.mark = lib.fingerprint) :
    f.seesChange lib = false := by
  cases hmetadata : f.cache.hasMetadata with
  | false => rw [seesChange, hmetadata, Bool.false_and]
  | true =>
    cases hlast : f.compilers.getLast? with
    | none => rw [seesChange, hlast, Option.any_none, Bool.and_false]
    | some last =>
      have hsame : last.library.fingerprint = lib.fingerprint :=
        (h.marked hmetadata last hlast).symm.trans (hmark hmetadata)
      rw [seesChange, hlast, Option.any_some, decide_eq_false (not_not_intro hsame), Bool.and_false]

/-- Opening a compiler keeps the compilations traced. -/
theorem Traced.opening (h : f.Traced) (lib : Library) (withPrologue : Bool) :
    (f.after (.opening lib withPrologue)).Traced := by
  obtain ⟨after, hafter, hprepares⟩ := Compiler.opened_cases lib withPrologue f.cache
  have hheld : ∀ key e, after.store.held key = some e → after = f.cache := by
    intro key e he
    rcases hprepares.contents with hsame | hnone
    · exact hsame
    · rw [hnone key] at he
      cases he
  cases hresult : (Compiler.opened lib withPrologue (some f.cache)).result with
  | error e =>
    simp only [Fleet.after, hresult, hafter, Option.getD_some]
    refine ⟨?_, ?_⟩
    · intro key e he
      have hsame := hheld key e he
      exact h.origin key e (hsame ▸ he)
    · intro hmetadata last hlast
      have hmark := hprepares.unmarked e hresult
      exact hmark.trans (h.marked (hprepares.metadata ▸ hmetadata) last hlast)
  | ok c =>
    have hmark := hprepares.marked c hresult
    have hlib : c.library = lib := congrArg Compiler.library (Compiler.eq_of_opened hresult)
    simp only [Fleet.after, hresult, hafter, Option.getD_some]
    refine ⟨?_, ?_⟩
    · intro key e he
      have hsame := hheld key e he
      -- A store that still holds something had the mark of the library, so no change was seen.
      have hunseen : f.seesChange lib = false := h.seesChange_eq_false (hsame ▸ hmark)
      simp only [hunseen, Bool.false_eq_true, if_false]
      exact h.origin key e (hsame ▸ he)
    · intro hmetadata last hlast
      have hlast' : c = last := by
        simpa only [List.getLast?_append, List.getLast?_singleton, Option.some_or,
          Option.some.injEq] using hlast
      rw [← hlast', hlib]
      exact hmark (hprepares.metadata ▸ hmetadata)

/-- Compiling keeps the compilations traced. -/
theorem Traced.compile (h : f.Traced) (number : Nat) (source : Text) :
    (f.after (.compile number source)).Traced := by
  cases hc : f.compilers[number]? with
  | none =>
    simp only [Fleet.after, hc]
    exact h
  | some c =>
    obtain ⟨after, hafter, hmetadata, hmark, hheld⟩ := c.held_body f.cache source
    simp only [Fleet.after, hc, Compiler.compile, hafter, Option.getD_some]
    refine ⟨?_, ?_⟩
    · intro key e he
      rcases hheld key e he with hold | ⟨rfl, hright, hresult⟩
      · obtain ⟨d, hd, hright⟩ := h.origin key e hold
        exact ⟨d, List.mem_append_left _ hd, hright⟩
      · refine ⟨c, List.mem_append_right _ ?_, hright⟩
        rw [hresult]
        exact List.mem_singleton_self _
    · intro htrue last hlast
      exact hmark.trans (h.marked (hmetadata ▸ htrue) last hlast)

/-- One step keeps the compilations traced. -/
theorem Traced.after (h : f.Traced) (step : Step) : (f.after step).Traced := by
  cases step with
  | opening lib withPrologue => exact h.opening lib withPrologue
  | compile number source => exact h.compile number source

/-- So do all steps. -/
theorem Traced.run (h : f.Traced) (steps : List Step) : (f.run steps).Traced := by
  induction steps generalizing f with
  | nil => exact h
  | cons step rest ih => exact ih (h.after step)

/-- Where all compilers that have compiled a source since the library was last seen to change have the
library of a compiler, that compiler gives its own answer. -/
theorem Traced.answer_eq (h : f.Traced) {number : Nat} {c : Compiler}
    (hc : f.compilers[number]? = some c) {source : Text}
    (hown : ∀ other, (other, source) ∈ f.recent → other.library = c.library) :
    f.answer number source = some (c.compile none source).result := by
  have hbody : (c.body (some f.cache) source).result = compileBody c.library source := by
    rcases c.body_cases f.cache source with ⟨key, e, hheld, rfl, hresult, _⟩ | ⟨hresult, _⟩
    · obtain ⟨other, hother, hright⟩ := h.origin key e hheld
      rw [hresult, ← hown other hother, hright]
    · exact hresult
  rw [answer, hc, Option.map_some, Compiler.compile, Compiler.compile, hbody,
    Compiler.result_body_none]

/-- The library is seen to change where it is another one than that of the last compiler. -/
theorem seesChange_of_ne (hmetadata : f.cache.hasMetadata = true) {last : Compiler}
    (hlast : f.compilers.getLast? = some last) {lib : Library}
    (hne : last.library.fingerprint ≠ lib.fingerprint) : f.seesChange lib = true := by
  rw [seesChange, hmetadata, hlast, Option.any_some, decide_eq_true hne, Bool.and_true]

/-- A store in memory with all its services in order. -/
def inMemory (m : Memory) (hasMetadata : Bool) : Cache :=
  ⟨.memory m, hasMetadata, [], fun _ => true⟩

variable {m : Memory} {hasMetadata : Bool}

/-- A store in memory can be made ready for any library. -/
theorem prepare_inMemory (lib : Library) (m : Memory) (hasMetadata : Bool) :
    (Compiler.prepare lib (inMemory m hasMetadata)).result = .ok () ∧
      ∃ m', (Compiler.prepare lib (inMemory m hasMetadata)).cache =
        some (inMemory m' hasMetadata) := by
  have hknown : (inMemory m hasMetadata).metadataAt Compiler.fingerprintKey =
      .ok (m.metadataAt Compiler.fingerprintKey) := rfl
  simp only [Compiler.prepare, hknown]
  split
  · exact ⟨rfl, m, rfl⟩
  · exact ⟨rfl, m.purge.setMetadata Compiler.fingerprintKey lib.fingerprint, rfl⟩

/-- Over a store in memory every compiler can be opened. -/
theorem after_opening_inMemory (hcache : f.cache = inMemory m hasMetadata) (c : Compiler) :
    (∃ m', (f.after (.opening c.library c.withPrologue)).cache = inMemory m' hasMetadata) ∧
      (f.after (.opening c.library c.withPrologue)).compilers = f.compilers ++ [c] ∧
      (f.after (.opening c.library c.withPrologue)).recent =
        if f.seesChange c.library then [] else f.recent := by
  rw [Fleet.after, hcache]
  cases hasMetadata with
  | false => exact ⟨⟨m, rfl⟩, rfl, rfl⟩
  | true =>
    obtain ⟨hresult, m', hm'⟩ := prepare_inMemory c.library m true
    have hopened : (Compiler.opened c.library c.withPrologue (some (inMemory m true))).result =
        .ok c := congrArg (Except.map fun _ => c) hresult
    have hafter : (Compiler.opened c.library c.withPrologue (some (inMemory m true))).cache =
        some (inMemory m' true) := hm'
    simp only [hopened, hafter, Option.getD_some, and_true]
    exact ⟨m', rfl⟩

/-- Compiling opens no compiler. -/
theorem compilers_after_compile (f : Fleet) (number : Nat) (source : Text) :
    (f.after (.compile number source)).compilers = f.compilers := by
  rw [Fleet.after]
  split <;> rfl

/-- What a compiler makes of a source that a store in memory does not hold is kept there. -/
theorem after_compile_inMemory (hcache : f.cache = inMemory m hasMetadata) {number : Nat}
    {c : Compiler} (hc : f.compilers[number]? = some c) {source swift : Text}
    (hmiss : f.cache.store.held source.digest = none)
    (hswift : compileBody c.library source = .ok swift) :
    (f.after (.compile number source)).cache =
      inMemory (m.put ⟨source.digest, source, swift⟩) hasMetadata := by
  have hcached : Compiler.cached? (some f.cache) source = .ok none := by
    have hget : f.cache.get source.digest = .ok (f.cache.store.held source.digest) := by
      rw [hcache]
      rfl
    rw [Compiler.cached?, hget, hmiss]
    rfl
  simp only [Fleet.after, hc, Compiler.compile, Compiler.body, hcached, hswift]
  rw [hcache]
  rfl

/-- A store in memory in which a compilation has just been kept gives it to every compiler. -/
theorem answer_of_put {source swift : Text}
    (hcache : f.cache = inMemory (m.put ⟨source.digest, source, swift⟩) hasMetadata) {number : Nat}
    {c : Compiler} (hc : f.compilers[number]? = some c) :
    f.answer number source = some (.ok (c.prologue ++ swift)) := by
  have hcached : Compiler.cached? (some f.cache) source =
      .ok (some ⟨source.digest, source, swift⟩) := by
    have hget : f.cache.get source.digest = .ok (some ⟨source.digest, source, swift⟩) := by
      have hheld := Dict.find?_insert m.entries source.digest source.digest
        ⟨source.digest, source, swift⟩
      rw [if_pos rfl] at hheld
      rw [hcache]
      exact congrArg Except.ok hheld
    rw [Compiler.cached?, hget, Except.map, Option.filter_some, if_pos (decide_eq_true rfl)]
  simp only [answer, hc, Compiler.compile, Compiler.body, hcached]
  rfl

/-- Where nothing has been compiled since the library was last seen to change, the store is empty. -/
theorem Traced.held_eq_none (h : f.Traced) (hrecent : f.recent = []) (key : Text) :
    f.cache.store.held key = none := by
  cases hheld : f.cache.store.held key with
  | none => rfl
  | some e =>
    obtain ⟨c, hc, _⟩ := h.origin key e hheld
    rw [hrecent] at hc
    cases hc

/-- Where nothing has been compiled yet and one compiler compiles a source, any other one then gives
what the first has made of it, whatever its own library. -/
theorem Traced.answer_of_other (h : f.Traced) (hcache : f.cache = inMemory m hasMetadata)
    (hrecent : f.recent = []) {first second : Nat} {c d : Compiler}
    (hc : f.compilers[first]? = some c) (hd : f.compilers[second]? = some d) {source swift : Text}
    (hswift : compileBody c.library source = .ok swift) :
    (f.after (.compile first source)).answer second source = some (.ok (d.prologue ++ swift)) := by
  have hmiss := h.held_eq_none hrecent source.digest
  have hkept := after_compile_inMemory hcache hc hmiss hswift
  exact answer_of_put hkept ((f.compilers_after_compile first source).symm ▸ hd)

/-- Two compilers that are opened over an empty store in memory have compiled nothing yet. -/
theorem run_openings (hasMetadata : Bool) (c d : Compiler) :
    let f := (start (inMemory .empty hasMetadata)).run
      [.opening c.library c.withPrologue, .opening d.library d.withPrologue]
    (∃ m, f.cache = inMemory m hasMetadata) ∧ f.compilers = [c, d] ∧ f.recent = [] := by
  have hstart : (start (inMemory .empty hasMetadata)).cache = inMemory .empty hasMetadata := rfl
  obtain ⟨⟨m, hcache⟩, hcompilers, hrecent⟩ := after_opening_inMemory hstart c
  obtain ⟨hcache', hcompilers', hrecent'⟩ := after_opening_inMemory hcache d
  refine ⟨hcache', ?_, ?_⟩
  · rw [hcompilers] at hcompilers'
    exact hcompilers'
  · rw [hrecent, start, ite_self, ite_self] at hrecent'
    exact hrecent'

/-- What the two ways of writing subtraction make of a difference. -/
theorem compileBody_minus (asOperator : Bool) :
    compileBody (minus asOperator) "(- 3 1)" =
      .ok (if asOperator then "(3 - 1)\n" else "-(3,1)\n") := by
  have hread : read "(- 3 1)" = .ok
      [.group .round [.leaf .atom "-" ⟨1, 1, 2⟩, .leaf .number "3" ⟨3, 1, 4⟩,
        .leaf .number "1" ⟨5, 1, 6⟩] ⟨0, 1, 1⟩] := by
    with_unfolding_all rfl
  rw [compileBody, compileUnder, resolveSource, hread]
  cases asOperator <;> rfl

/-- Over a store that is empty at first, whatever the compilers do and in whatever order, a compiler
gives the answer that it gives without a cache, provided that no compiler with another library has
compiled the same source since the library was last seen to change. -/
theorem answer_run_eq {cache : Cache} (hempty : ∀ key, cache.store.held key = none)
    (steps : List Step) {number : Nat} {c : Compiler}
    (hc : ((start cache).run steps).compilers[number]? = some c) {source : Text}
    (hown : ∀ other, (other, source) ∈ ((start cache).run steps).recent →
      other.library = c.library) :
    ((start cache).run steps).answer number source = some (c.compile none source).result :=
  ((traced_start hempty).run steps).answer_eq hc hown

/-- A compiler that is opened over a store with metadata after another one has compiled a source gives
its own answer to that source. -/
theorem answer_afterChange :
    let f := (start (inMemory .empty true)).run
      [.opening (minus true) false, .compile 0 "(- 3 1)", .opening (minus false) false]
    f.compilers[1]? = some ⟨minus false, false⟩ ∧ f.recent = [] ∧
      f.answer 1 "(- 3 1)" = some (Compiler.compile ⟨minus false, false⟩ none "(- 3 1)").result := by
  intro f
  have hstart : (start (inMemory .empty true)).cache = inMemory .empty true := rfl
  have htraced : (start (inMemory .empty true)).Traced := traced_start fun _ => rfl
  obtain ⟨⟨m, hcache⟩, hcompilers, hrecent⟩ := after_opening_inMemory hstart ⟨minus true, false⟩
  rw [start, ite_self] at hrecent
  have hmiss := (htraced.after _).held_eq_none hrecent (Text.digest "(- 3 1)")
  have hfirst := congrArg (fun compilers => compilers[0]?) hcompilers
  have hkept := after_compile_inMemory hcache hfirst hmiss (compileBody_minus true)
  have hbefore := (compilers_after_compile _ 0 "(- 3 1)").trans hcompilers
  obtain ⟨_, hcompilers', hrecent'⟩ := after_opening_inMemory hkept ⟨minus false, false⟩
  have hsecond : f.compilers[1]? = some ⟨minus false, false⟩ := by
    rw [hbefore] at hcompilers'
    exact congrArg (fun compilers => compilers[1]?) hcompilers'
  have hforgotten : f.recent = [] := by
    have hlast := congrArg List.getLast? hbefore
    rwa [seesChange_of_ne (congrArg Cache.hasMetadata hkept) hlast fingerprint_minus_ne,
      if_pos rfl] at hrecent'
  have hown : ∀ other, (other, Text.ofString "(- 3 1)") ∈ f.recent →
      other.library = minus false := by
    intro other hother
    rw [hforgotten] at hother
    cases hother
  exact ⟨hsecond, hforgotten, answer_run_eq (fun _ => rfl) _ hsecond hown⟩

/-- The library of a compiler that is to be opened. -/
def Step.library? : Step → Option Library
  | .opening lib _ => some lib
  | .compile _ _ => none

/-- Whatever compilers with these libraries do over a store, each gives the answers that it gives
without a cache. -/
def OwnAnswers (cache : Cache) (libs : List Library) : Prop :=
  ∀ steps : List Step, (∀ lib ∈ steps.filterMap Step.library?, lib ∈ libs) →
    ∀ number c, ((start cache).run steps).compilers[number]? = some c →
      ∀ source swift, ((start cache).run steps).answer number source = some (.ok swift) →
        (c.compile none source).result = .ok swift

/-- The two ways of writing subtraction are told apart by their fingerprints. All the same, over a
store without metadata and over one with metadata, a compiler may give what the other library makes of
a source. -/
theorem not_ownAnswers_minus :
    Library.Distinguished [minus true, minus false] ∧
      ¬ OwnAnswers (inMemory .empty false) [minus true, minus false] ∧
      ¬ OwnAnswers (inMemory .empty true) [minus true, minus false] := by
  have hnot : ∀ hasMetadata,
      ¬ OwnAnswers (inMemory .empty hasMetadata) [minus true, minus false] := by
    intro hasMetadata hown
    have htraced : (start (inMemory .empty hasMetadata)).Traced := traced_start fun _ => rfl
    obtain ⟨⟨m, hcache⟩, hcompilers, hrecent⟩ :=
      run_openings hasMetadata ⟨minus true, false⟩ ⟨minus false, false⟩
    have hfirst := congrArg (fun compilers => compilers[0]?) hcompilers
    have hsecond := congrArg (fun compilers => compilers[1]?) hcompilers
    have hanswer := (htraced.run _).answer_of_other hcache hrecent hfirst hsecond
      (compileBody_minus true)
    have hright := hown [.opening (minus true) false, .opening (minus false) false,
      .compile 0 "(- 3 1)"] (fun _ hlib => hlib) 1 _
      ((compilers_after_compile _ _ _).symm ▸ hsecond) _ _ hanswer
    rw [Compiler.compile, Compiler.result_body_none, compileBody_minus] at hright
    have hsame : ("-(3,1)\n" : Text) = "(3 - 1)\n" := Except.ok.inj hright
    exact absurd hsame (by decide)
  exact ⟨distinguished_minus, hnot false, hnot true⟩

end Fleet

end SwiftForms
