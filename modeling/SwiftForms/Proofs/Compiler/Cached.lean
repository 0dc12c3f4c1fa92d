import SwiftForms.Compiler
import SwiftForms.Proofs.Store.Contents

/-!
# Compiling over a cache

The mark of a cache is the fingerprint in its metadata. A cache can be trusted when every compilation
that it holds is what the libraries with that fingerprint make of its source. What opening a compiler
and compiling can do to a cache is said first, for any cache. Hence opening a compiler keeps a cache
trusted, also when it fails halfway, and marks it with the library when it succeeds. Compiling over a
trusted cache with the mark of the library gives what compiling without a cache gives, and keeps the
cache trusted.
-/

namespace SwiftForms

/-- No two of these libraries that differ have the same fingerprint. -/
def Library.Distinguished (libs : List Library) : Prop :=
  ∀ a ∈ libs, ∀ b ∈ libs, a.fingerprint = b.fingerprint → a = b

namespace Cache

/-- The fingerprint of the library that a cache was filled with. -/
def mark (c : Cache) : Text :=
  c.store.noted Compiler.fingerprintKey

/-- Every compilation in a cache is what each of these libraries with its mark makes of the source. -/
def Faithful (libs : List Library) (c : Cache) : Prop :=
  ∀ lib ∈ libs, lib.fingerprint = c.mark →
    ∀ key e, c.store.held key = some e → compileBody lib e.source = .ok e.output

/-- A cache with metadata whose compilations are right for these libraries. -/
structure Trusted (libs : List Library) (c : Cache) : Prop where
  /-- The library that it was filled with is known. -/
  metadata : c.hasMetadata = true
  /-- Its compilations are right. -/
  faithful : c.Faithful libs

variable {libs : List Library} {c d : Cache}

/-- A cache without compilations is faithful. -/
theorem faithful_of_none (h : ∀ key, c.store.held key = none) : c.Faithful libs := by
  intro lib _ _ key e he
  rw [h key] at he
  cases he

/-- A cache that holds what a faithful cache holds, under the same mark, is faithful. -/
theorem Faithful.congr (hc : c.Faithful libs) (hheld : ∀ key, d.store.held key = c.store.held key)
    (hmark : d.mark = c.mark) : d.Faithful libs := by
  intro lib hlib hfingerprint key e he
  rw [hheld key] at he
  exact hc lib hlib (hfingerprint.trans hmark) key e he

/-- A right compilation can be kept in a trusted cache with the mark of its library. -/
theorem Trusted.put (hdistinct : Library.Distinguished libs) (hc : c.Trusted libs) {lib : Library}
    (hlib : lib ∈ libs) (hmark : lib.fingerprint = c.mark) {e : Entry}
    (he : compileBody lib e.source = .ok e.output) (h : c.put e = .ok d) :
    d.Trusted libs ∧ d.mark = c.mark := by
  obtain ⟨hput, hmetadata⟩ := store_of_put h
  obtain ⟨hheld, hnoted⟩ := Store.held_of_put hput
  have hsame : d.mark = c.mark := hnoted _
  refine ⟨⟨hmetadata.trans hc.metadata, ?_⟩, hsame⟩
  intro other hother hfingerprint key found hfound
  have hmarked : other.fingerprint = c.mark := hfingerprint.trans hsame
  rw [hheld key] at hfound
  split at hfound
  · cases hfound
    rw [hdistinct other hother lib hlib (hmarked.trans hmark.symm)]
    exact he
  · exact hc.faithful other hother hmarked key found hfound

end Cache

namespace Compiler

open Fallible

/-- Without a cache a compiler compiles every source. -/
theorem result_body_none (c : Compiler) (source : Text) :
    (c.body none source).result = compileBody c.library source := by
  simp only [body, cached?]
  cases compileBody c.library source <;> rfl

/-- What becomes of a cache that is made ready for a library, with this result. -/
structure Prepares {α : Type} (lib : Library) (cache after : Cache) (result : Except StoreError α) :
    Prop where
  /-- Whether there are metadata does not change. -/
  metadata : after.hasMetadata = cache.hasMetadata
  /-- The cache is left as it was, or has no compilation any more. -/
  contents : after = cache ∨ ∀ key, after.store.held key = none
  /-- Metadata name the library if all goes well. -/
  marked : ∀ a, result = .ok a → cache.hasMetadata = true → after.mark = lib.fingerprint
  /-- Otherwise they name the library that they named before. -/
  unmarked : ∀ e, result = .error e → after.mark = cache.mark

/-- What follows a success has no part in what becomes of a cache. -/
theorem Prepares.map {α β : Type} {lib : Library} {cache after : Cache} {result : Except StoreError α}
    (h : Prepares lib cache after result) (f : α → β) : Prepares lib cache after (result.map f) := by
  refine ⟨h.metadata, h.contents, ?_, ?_⟩
  · intro b hb
    obtain ⟨a, ha, _⟩ := map_eq_ok.mp hb
    exact h.marked a ha
  · intro e he
    cases result with
    | ok a => cases he
    | error e' => exact h.unmarked e' rfl

/-- A cache that is left as it was after a failure. -/
theorem Prepares.refl_error {α : Type} (lib : Library) (cache : Cache) (e : StoreError) :
    Prepares lib cache cache (.error e : Except StoreError α) := by
  refine ⟨rfl, .inl rfl, ?_, fun _ _ => rfl⟩
  intro a ha
  cases ha

/-- Each way through the check of a cache prepares it. -/
theorem prepare_cases (lib : Library) (cache : Cache) :
    ∃ after, (prepare lib cache).cache = some after ∧
      Prepares lib cache after (prepare lib cache).result := by
  unfold prepare
  cases hprevious : cache.metadataAt fingerprintKey with
  | error e => exact ⟨cache, rfl, .refl_error lib cache e⟩
  | ok previous =>
    by_cases hsame : previous = lib.fingerprint
    · simp only [hsame, if_true]
      have hmark : cache.mark = lib.fingerprint :=
        (Cache.noted_of_metadataAt hprevious).symm.trans hsame
      exact ⟨cache, rfl, rfl, .inl rfl, fun _ _ _ => hmark, fun _ _ => rfl⟩
    · simp only [hsame, if_false]
      cases hpurge : cache.purge with
      | error e => exact ⟨cache, rfl, .refl_error lib cache e⟩
      | ok purged =>
        obtain ⟨hpurged, hmetadata⟩ := Cache.store_of_purge hpurge
        obtain ⟨hnone, hnoted⟩ := Store.held_of_purge hpurged
        dsimp only
        cases hset : purged.setMetadata fingerprintKey lib.fingerprint with
        | error e =>
          refine ⟨purged, rfl, hmetadata, .inr hnone, ?_, fun _ _ => hnoted _⟩
          intro a ha
          cases ha
        | ok marked =>
          obtain ⟨hkept, hmetadata'⟩ := Cache.store_of_setMetadata hset
          obtain ⟨hheld, hmarked⟩ := Store.noted_of_setMetadata hkept
          have hstill : ∀ key, marked.store.held key = none := fun key =>
            (hheld key).trans (hnone key)
          have hmark : marked.mark = lib.fingerprint := by rw [Cache.mark, hmarked, if_pos rfl]
          refine ⟨marked, rfl, hmetadata'.trans hmetadata, .inr hstill, fun _ _ _ => hmark, ?_⟩
          intro e he
          cases he

/-- Opening a compiler prepares the cache. Without metadata nothing is looked at and nothing done. -/
theorem opened_cases (lib : Library) (withPrologue : Bool) (cache : Cache) :
    ∃ after, (opened lib withPrologue (some cache)).cache = some after ∧
      Prepares lib cache after (opened lib withPrologue (some cache)).result := by
  cases hmetadata : cache.hasMetadata with
  | false =>
    simp only [opened, hmetadata, Bool.false_eq_true, if_false]
    refine ⟨cache, rfl, rfl, .inl rfl, ?_, fun _ _ => rfl⟩
    intro c _ htrue
    rw [hmetadata] at htrue
    cases htrue
  | true =>
    obtain ⟨after, hafter, hprepares⟩ := prepare_cases lib cache
    simp only [opened, hmetadata, if_true]
    exact ⟨after, hafter, hprepares.map _⟩

/-- A compiler that could be opened has the library and the setting that were asked for. -/
theorem eq_of_opened {lib : Library} {withPrologue : Bool} {cache : Option Cache} {c : Compiler}
    (h : (opened lib withPrologue cache).result = .ok c) : c = ⟨lib, withPrologue⟩ := by
  unfold opened at h
  split at h
  · cases h
    rfl
  · split at h
    · obtain ⟨_, _, rfl⟩ := map_eq_ok.mp h
      rfl
    · cases h
      rfl

/-- What compiling a source over a cache does: the output is taken from the cache, which is left as it
was; or the source is compiled, and the output may be kept. -/
theorem body_cases (c : Compiler) (cache : Cache) (source : Text) :
    (∃ key e, cache.store.held key = some e ∧ e.source = source ∧
      (c.body (some cache) source).result = .ok e.output ∧
      (c.body (some cache) source).cache = some cache) ∨
    ((c.body (some cache) source).result = compileBody c.library source ∧
      ∃ after, (c.body (some cache) source).cache = some after ∧
        (after = cache ∨ ∃ swift, compileBody c.library source = .ok swift ∧
          cache.put ⟨source.digest, source, swift⟩ = .ok after)) := by
  unfold body
  split
  · rename_i e hcached
    obtain ⟨found, hget, hfilter⟩ := map_eq_ok.mp hcached
    obtain ⟨hfound, hsource⟩ := Option.filter_eq_some_iff.mp hfilter
    have hheld : cache.store.held source.digest = some e :=
      (Cache.held_of_get hget).symm.trans hfound
    exact .inl ⟨source.digest, e, hheld, of_decide_eq_true hsource, rfl, rfl⟩
  · right
    cases hbody : compileBody c.library source with
    | error e => exact ⟨rfl, cache, rfl, .inl rfl⟩
    | ok swift =>
      refine ⟨rfl, ?_⟩
      cases hput : cache.put ⟨source.digest, source, swift⟩ with
      | error e => exact ⟨cache, by simp only [keep, hput], .inl rfl⟩
      | ok kept => exact ⟨kept, by simp only [keep, hput], .inr ⟨swift, rfl, hput⟩⟩

/-- A trusted cache stays trusted when it is made ready for a library. -/
theorem Prepares.trusted {α : Type} {libs : List Library} {lib : Library} {cache after : Cache}
    {result : Except StoreError α} (h : Prepares lib cache after result) (hc : cache.Trusted libs) :
    after.Trusted libs := by
  refine ⟨h.metadata.trans hc.metadata, ?_⟩
  rcases h.contents with rfl | hnone
  · exact hc.faithful
  · exact Cache.faithful_of_none hnone

/-- Opening a compiler leaves the cache trusted. If nothing fails, the compiler has the library and the
setting that were asked for, and the cache has the mark of the library. -/
theorem opened_trusted {libs : List Library} {cache : Cache} (hc : cache.Trusted libs)
    (lib : Library) (withPrologue : Bool) :
    ∃ after, (opened lib withPrologue (some cache)).cache = some after ∧ after.Trusted libs ∧
      ∀ c, (opened lib withPrologue (some cache)).result = .ok c →
        c = ⟨lib, withPrologue⟩ ∧ after.mark = lib.fingerprint := by
  obtain ⟨after, hafter, hprepares⟩ := opened_cases lib withPrologue cache
  refine ⟨after, hafter, hprepares.trusted hc, ?_⟩
  intro c hopened
  exact ⟨eq_of_opened hopened, hprepares.marked c hopened hc.metadata⟩

/-- Over a trusted cache with the mark of its library a compiler gives what the library makes of a
source, and leaves the cache trusted with the same mark. -/
theorem body_trusted {libs : List Library} (hdistinct : Library.Distinguished libs) {cache : Cache}
    (hc : cache.Trusted libs) {c : Compiler} (hlib : c.library ∈ libs)
    (hmark : c.library.fingerprint = cache.mark) (source : Text) :
    (c.body (some cache) source).result = compileBody c.library source ∧
      ∃ after, (c.body (some cache) source).cache = some after ∧ after.Trusted libs ∧
        after.mark = cache.mark := by
  rcases c.body_cases cache source with
    ⟨key, e, hheld, rfl, hresult, hafter⟩ | ⟨hresult, after, hafter, hkept⟩
  · have hright := hc.faithful c.library hlib hmark key e hheld
    exact ⟨hresult.trans hright.symm, cache, hafter, hc, rfl⟩
  · refine ⟨hresult, after, hafter, ?_⟩
    rcases hkept with rfl | ⟨swift, hswift, hput⟩
    · exact ⟨hc, rfl⟩
    · exact hc.put hdistinct hlib hmark (e := ⟨source.digest, source, swift⟩) hswift hput

end Compiler

end SwiftForms
