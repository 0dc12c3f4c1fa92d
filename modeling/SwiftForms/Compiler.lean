import SwiftForms.Compile
import SwiftForms.Store.Cache

/-!
# Compilers

A compiler has a library, and may have a cache. When it is opened, a cache whose metadata name
another library is emptied first. A compilation that the cache holds under the digest of its source,
for that very source, is taken from there; any other is compiled and then kept. A cache that does not
answer is only reported, never a reason to fail. The text that the library puts in front of a program
is not kept in the cache.
-/

namespace SwiftForms

/-- What a compiler reports on its work. -/
inductive LogEntry where
  /-- A compilation was found in the cache, under this key. -/
  | cacheHit (key : Text)
  /-- A source of this many bytes was compiled. -/
  | compiled (bytes : Nat)
  /-- The cache could not be searched. -/
  | readFailed (error : StoreError)
  /-- A compilation could not be kept. -/
  | writeFailed (error : StoreError)
  /-- The cache held compilations of another library. -/
  | libraryChanged
  deriving DecidableEq, Repr

/-- The text of a report, with the time that a compilation took. -/
def LogEntry.text (duration : Text) : LogEntry → Text
  | .cacheHit key => "cache hit " ++ key.take 12
  | .compiled bytes => "compiled " ++ Text.ofNat bytes ++ " bytes in " ++ duration
  | .readFailed error => "cache read failed: " ++ error.message
  | .writeFailed error => "cache write failed: " ++ error.message
  | .libraryChanged => "library changed, purging cache"

/-- The result of a step together with the cache after it and what was reported. -/
structure Outcome (α : Type) where
  /-- The result. -/
  result : α
  /-- The cache after the step. -/
  cache : Option Cache
  /-- The reports, in order. -/
  log : List LogEntry

/-- A library, and whether its text is put in front of programs. -/
structure Compiler where
  /-- The library. -/
  library : Library
  /-- Whether the text of the library is put in front of programs. -/
  withPrologue : Bool

namespace Compiler

/-- The metadata key of the library that a cache was filled with. -/
def fingerprintKey : Text :=
  "library_fingerprint"

/-- A cache made ready for a library: emptied and marked, unless it is marked with that library
already. -/
def prepare (lib : Library) (cache : Cache) : Outcome (Except StoreError Unit) :=
  match cache.metadataAt fingerprintKey with
  | .error e => ⟨.error e, cache, []⟩
  | .ok previous =>
    if previous = lib.fingerprint then ⟨.ok (), cache, []⟩
    else
      let log := if previous.isEmpty then [] else [.libraryChanged]
      match cache.purge with
      | .error e => ⟨.error e, cache, log⟩
      | .ok purged =>
        match purged.setMetadata fingerprintKey lib.fingerprint with
        | .error e => ⟨.error e, purged, log⟩
        | .ok marked => ⟨.ok (), marked, log⟩

/-- Opens a compiler over a cache. -/
def opened (lib : Library) (withPrologue : Bool) (cache : Option Cache) :
    Outcome (Except StoreError Compiler) :=
  match cache with
  | none => ⟨.ok ⟨lib, withPrologue⟩, none, []⟩
  | some c =>
    if c.hasMetadata then
      let prepared := prepare lib c
      { prepared with result := prepared.result.map fun _ => ⟨lib, withPrologue⟩ }
    else ⟨.ok ⟨lib, withPrologue⟩, some c, []⟩

/-- The text in front of programs. -/
def prologue (c : Compiler) : Text :=
  if c.withPrologue then c.library.prologue else []

/-- The compilation of a source that a cache holds, or the report of a failed search. -/
def cached? (cache : Option Cache) (source : Text) : Except StoreError (Option Entry) :=
  match cache with
  | none => .ok none
  | some c => (c.get source.digest).map fun found => found.filter fun e => e.source = source

/-- A cache after an attempt to keep a compilation in it. -/
def keep (cache : Option Cache) (source swift : Text) : Option Cache × List LogEntry :=
  match cache with
  | none => (none, [])
  | some c =>
    match c.put ⟨source.digest, source, swift⟩ with
    | .ok kept => (kept, [])
    | .error e => (c, [.writeFailed e])

/-- The Swift text of a source, without the text in front. -/
def body (c : Compiler) (cache : Option Cache) (source : Text) :
    Outcome (Except CompileError Text) :=
  match cached? cache source with
  | .ok (some entry) => ⟨.ok entry.output, cache, [.cacheHit source.digest]⟩
  | found =>
    let searched := match found with
      | .error e => [.readFailed e]
      | .ok _ => []
    match compileBody c.library source with
    | .error e => ⟨.error e, cache, searched⟩
    | .ok swift =>
      let kept := keep cache source swift
      ⟨.ok swift, kept.1, searched ++ .compiled source.byteSize :: kept.2⟩

/-- The Swift text of a source. -/
def compile (c : Compiler) (cache : Option Cache) (source : Text) :
    Outcome (Except CompileError Text) :=
  let outcome := c.body cache source
  { outcome with result := outcome.result.map fun swift => c.prologue ++ swift }

/-- The outlines of a source's expressions. The cache has no part in it. -/
def outline (c : Compiler) (source : Text) : Except CompileError Text :=
  outlineSource c.library source

end Compiler

end SwiftForms
