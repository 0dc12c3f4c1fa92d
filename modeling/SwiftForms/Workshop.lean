import SwiftForms.Compiler
import SwiftForms.Session
import SwiftForms.Store.Call

/-!
# Workshops

A workshop is a store and the compilers that work over it, one after another. It also lets the store
be used directly, and lets services of the store go out of order, as the compilers see it. The
compilers may share the store with or without its metadata, or have caches of their own, or none.
-/

namespace SwiftForms

/-- How compilers use the store of a workshop. -/
inductive Sharing where
  /-- All of them share it. -/
  | shared
  /-- All of them share it, without its metadata. -/
  | withoutMetadata
  /-- All of them share it, and it is a database that each of them opens. -/
  | database
  /-- Each of them has a store of its own in memory. -/
  | separate
  /-- None of them has a cache. -/
  | uncached
  deriving DecidableEq, Repr

/-- An open compiler with its cache and its session. -/
structure Bench where
  /-- The compiler. -/
  compiler : Compiler
  /-- A cache of its own. -/
  own : Option Cache
  /-- The session. -/
  session : Session

/-- A store and the compiler that works over it, if one is open. -/
structure Workshop where
  /-- How compilers use the store. -/
  sharing : Sharing
  /-- The store, with the services that are out of order. -/
  shared : Cache
  /-- The open compiler. -/
  bench : Option Bench

/-- What can be done in a workshop. -/
inductive WorkshopStep where
  /-- Close the open compiler and open another one, unless there is no library for it. -/
  | opening (library : Except LibraryFault Library) (withPrologue : Bool)
  /-- Close the open compiler. -/
  | closing
  /-- Call the store directly. -/
  | call (call : StoreCall)
  /-- A service of the store goes out of order. -/
  | fail (service : Service) (reason : Text)
  /-- A service of the store is in order again. -/
  | heal (service : Service)
  /-- Compile a source. -/
  | compile (source : Text)
  /-- Outline a source. -/
  | outline (source : Text)
  /-- The text in front of programs. -/
  | prologue
  /-- Start a session. -/
  | startSession
  /-- Forget the declarations of the session. -/
  | resetSession
  /-- Compile a source in the session. -/
  | compileInSession (source : Text)
  /-- The names of all functions in the session. -/
  | sessionFunctions
  /-- The names of the functions that the session declared. -/
  | sessionDeclared

/-- The answer to a step. -/
inductive WorkshopAnswer where
  /-- It was done. -/
  | done
  /-- A text. -/
  | text (value : Text)
  /-- Names. -/
  | names (values : List Text)
  /-- The answer of the store. -/
  | store (answer : StoreAnswer)
  /-- A source did not compile. -/
  | compileError (error : CompileError)
  /-- The store did not answer. -/
  | storeError (error : StoreError)
  /-- There is no library. -/
  | libraryFault (fault : LibraryFault)
  /-- No compiler is open. -/
  | noCompiler

namespace Workshop

/-- A workshop in which nothing has been done. -/
def start (sharing : Sharing) : Workshop :=
  let store := if sharing = .database then .database .create else .memory .empty
  ⟨sharing, ⟨store, sharing ≠ .withoutMetadata, [], fun _ => true⟩, none⟩

/-- The cache that the next compiler is opened over. -/
def cacheForNext (w : Workshop) : Except StoreError (Option Cache) :=
  match w.sharing, w.shared.store with
  | .shared, _ => .ok w.shared
  | .withoutMetadata, _ => .ok w.shared
  | .database, store => (store.reopen).map fun s => some (w.shared.withStore s)
  | .separate, _ => .ok (some ⟨.memory .empty, true, [], fun _ => true⟩)
  | .uncached, _ => .ok none

/-- The cache of the compiler at a bench. -/
def cacheAt (w : Workshop) (b : Bench) : Option Cache :=
  match w.sharing with
  | .shared | .withoutMetadata | .database => some w.shared
  | .separate => b.own
  | .uncached => none

/-- The workshop with a cache as a compiler left it, and that compiler's bench. -/
def withCache (w : Workshop) (cache : Option Cache) (bench : Option Bench) : Workshop :=
  match w.sharing with
  | .shared | .withoutMetadata | .database =>
    { w with shared := cache.getD w.shared, bench := bench }
  | .separate => { w with bench := bench.map fun b => { b with own := cache } }
  | .uncached => { w with bench := bench }

/-- The answer of the store when the open compiler is closed. -/
def closeCompiler (w : Workshop) : WorkshopAnswer :=
  match w.bench with
  | none => .done
  | some b =>
    match w.cacheAt b with
    | none => .done
    | some cache =>
      match cache.close with
      | .error e => .storeError e
      | .ok _ => .done

/-- Opens a compiler when none is open. -/
def openCompiler (w : Workshop) (library : Except LibraryFault Library) (withPrologue : Bool) :
    WorkshopAnswer × List LogEntry × Workshop :=
  match library with
  | .error fault => (.libraryFault fault, [], w)
  | .ok lib =>
    match w.cacheForNext with
    | .error e => (.storeError e, [], w)
    | .ok cache =>
      let outcome := Compiler.opened lib withPrologue cache
      match outcome.result with
      | .error e => (.storeError e, outcome.log, w.withCache outcome.cache none)
      | .ok compiler =>
        let bench : Bench := ⟨compiler, outcome.cache, .start lib⟩
        (.done, outcome.log, w.withCache outcome.cache (some bench))

/-- Changes which services of the store are out of order. Those of a database always are in order. -/
def withOutages (w : Workshop) (change : Cache → Cache) : Workshop :=
  match w.sharing with
  | .database => w
  | _ => { w with shared := change w.shared }

/-- A step that needs an open compiler. -/
def atBench (w : Workshop)
    (work : Bench → WorkshopAnswer × List LogEntry × Workshop) :
    WorkshopAnswer × List LogEntry × Workshop :=
  match w.bench with
  | none => (.noCompiler, [], w)
  | some b => work b

/-- The answer that a compilation gives. -/
def answerOf : Except CompileError Text → WorkshopAnswer
  | .ok text => .text text
  | .error e => .compileError e

/-- The answer to a step, what was reported, and the workshop after it. -/
def step (w : Workshop) : WorkshopStep → WorkshopAnswer × List LogEntry × Workshop
  | .opening library withPrologue => openCompiler { w with bench := none } library withPrologue
  | .closing => (w.closeCompiler, [], { w with bench := none })
  | .call c =>
    match w.shared.store.callOnce c with
    | .error e => (.storeError e, [], w)
    | .ok (answer, store) => (.store answer, [], { w with shared := w.shared.withStore store })
  | .fail service reason => (.done, [], w.withOutages fun c => c.fail service reason)
  | .heal service => (.done, [], w.withOutages fun c => c.heal service)
  | .compile source => w.atBench fun b =>
    let outcome := b.compiler.compile (w.cacheAt b) source
    (answerOf outcome.result, outcome.log, w.withCache outcome.cache (some b))
  | .outline source => w.atBench fun b => (answerOf (b.compiler.outline source), [], w)
  | .prologue => w.atBench fun b => (.text b.compiler.prologue, [], w)
  | .startSession => w.atBench fun b =>
    (.done, [], { w with bench := some { b with session := .start b.compiler.library } })
  | .resetSession => w.atBench fun b =>
    (.done, [], { w with bench := some { b with session := b.session.reset } })
  | .compileInSession source => w.atBench fun b =>
    let (result, session) := b.session.compile source
    (answerOf result, [], { w with bench := some { b with session := session } })
  | .sessionFunctions => w.atBench fun b => (.names b.session.functions, [], w)
  | .sessionDeclared => w.atBench fun b => (.names b.session.declared, [], w)

end Workshop

end SwiftForms
