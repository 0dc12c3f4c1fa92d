import Mathlib.Data.Finmap
import SwiftForms.Proofs.Store.Contents
import SwiftForms.Store.Call

/-!
# Stores are pairs of finite maps

What a store is for its callers: a finite map of compilations and a finite map of metadata, the ledger.
A store in memory and a database answer every run of calls as the ledger does, and a database goes on
doing so when it is closed and opened again in between. The only trace of the database itself is the
version of its layout, which it keeps among the metadata.
-/

namespace SwiftForms

/-- Compilations and metadata as finite maps. -/
structure Ledger where
  /-- The compilations by key. -/
  entries : Finmap fun _ : Text => Entry
  /-- The metadata. -/
  metadata : Finmap fun _ : Text => Text

namespace Ledger

/-- The ledger in which nothing is written. -/
def empty : Ledger :=
  ⟨∅, ∅⟩

/-- The answer of a ledger to a call, and the ledger after it. -/
def call (l : Ledger) : StoreCall → StoreAnswer × Ledger
  | .get key => (.entry (l.entries.lookup key), l)
  | .put e => (.done, { l with entries := l.entries.insert e.key e })
  | .delete key => (.done, { l with entries := l.entries.erase key })
  | .purge => (.done, { l with entries := ∅ })
  | .size => (.size l.entries.keys.card, l)
  | .getMetadata key => (.metadata ((l.metadata.lookup key).getD []), l)
  | .setMetadata key value => (.done, { l with metadata := l.metadata.insert key value })

/-- The answers of a ledger to calls one after another. -/
def answers (l : Ledger) : List StoreCall → List StoreAnswer
  | [] => []
  | c :: rest => (l.call c).1 :: (l.call c).2.answers rest

end Ledger

/-- What happens to a store. -/
inductive StoreStep where
  /-- It is called. -/
  | call (c : StoreCall)
  /-- It is closed and opened again. -/
  | reopen
  deriving DecidableEq, Repr

/-- The call that is made in a step, if it is one. -/
def StoreStep.call? : StoreStep → Option StoreCall
  | .call c => some c
  | .reopen => none

/-- The answers of a store to the calls among steps one after another. -/
def Store.answers (s : Store) : List StoreStep → Except StoreError (List StoreAnswer)
  | [] => .ok []
  | .call c :: rest => do
    let (answer, next) ← s.call c
    let others ← next.answers rest
    return answer :: others
  | .reopen :: rest => do
    let next ← s.close.reopen
    next.answers rest

/-- The key of the metadata that a call is about. -/
def StoreCall.metadataKey? : StoreCall → Option Text
  | .getMetadata key => some key
  | .setMetadata key _ => some key
  | _ => none

/-- Rows with keys and values hold a finite map: no two rows have the same key, and the row with a key
has the value of the map. -/
structure Holds {ρ α : Type} (key : ρ → Text) (value : ρ → α) (rows : List ρ)
    (m : Finmap fun _ : Text => α) : Prop where
  /-- The keys are different. -/
  distinct : (rows.map key).Nodup
  /-- The value at a key. -/
  finds : ∀ k, (rows.find? fun r => key r = k).map value = m.lookup k

/-- A set key has its value in a finite map, and the others keep theirs. -/
theorem Ledger.lookup_insert {α : Type} (m : Finmap fun _ : Text => α) (key k : Text) (a : α) :
    (m.insert key a).lookup k = if k = key then some a else m.lookup k := by
  by_cases h : k = key
  · rw [if_pos h, h, Finmap.lookup_insert]
  · rw [if_neg h, Finmap.lookup_insert_of_ne m h]

/-- A row that is written has its key afterwards, and the keys of the other rows stay. -/
theorem Database.mem_map_key_upsert {ρ : Type} (key : ρ → Text) (row : ρ) (rows : List ρ) (k : Text) :
    k ∈ (upsert key row rows).map key ↔ k = key row ∨ k ∈ rows.map key := by
  induction rows with
  | nil => simp [upsert]
  | cons first rest ih =>
    rw [upsert]
    by_cases hfirst : key first = key row
    · simp [hfirst]
    · rw [if_neg hfirst, List.map_cons, List.mem_cons, ih, List.map_cons, List.mem_cons]
      exact or_left_comm

/-- Writing a row repeats no key. -/
theorem Database.nodup_map_key_upsert {ρ : Type} (key : ρ → Text) (row : ρ) {rows : List ρ}
    (h : (rows.map key).Nodup) : ((upsert key row rows).map key).Nodup := by
  induction rows with
  | nil => simp [upsert]
  | cons first rest ih =>
    rw [List.map_cons] at h
    obtain ⟨hnew, hrest⟩ := List.nodup_cons.mp h
    rw [upsert]
    by_cases hfirst : key first = key row
    · rw [if_pos hfirst, List.map_cons, ← hfirst]
      exact h
    · rw [if_neg hfirst, List.map_cons]
      refine List.nodup_cons.mpr ⟨?_, ih hrest⟩
      rw [mem_map_key_upsert]
      exact not_or.mpr ⟨hfirst, hnew⟩

namespace Holds

variable {ρ α : Type} {key : ρ → Text} {value : ρ → α} {rows : List ρ} {m : Finmap fun _ : Text => α}

/-- No rows hold the empty map. -/
theorem nil : Holds key value [] ∅ :=
  ⟨List.nodup_nil, fun _ => rfl⟩

/-- Writing a row sets its key. -/
theorem upsert (h : Holds key value rows m) (row : ρ) :
    Holds key value (Database.upsert key row rows) (m.insert (key row) (value row)) := by
  refine ⟨Database.nodup_map_key_upsert key row h.distinct, fun k => ?_⟩
  rw [Database.find?_upsert, Ledger.lookup_insert, ← h.finds k]
  by_cases hk : k = key row
  · rw [if_pos hk, if_pos hk, Option.map_some]
  · rw [if_neg hk, if_neg hk]

/-- Removing the rows with a key erases it. -/
theorem erase (h : Holds key value rows m) (gone : Text) :
    Holds key value (rows.filter fun r => key r ≠ gone) (m.erase gone) := by
  have hsublist := (List.filter_sublist (p := fun r => key r ≠ gone) (l := rows)).map key
  refine ⟨h.distinct.sublist hsublist, fun k => ?_⟩
  rw [List.find?_filter]
  by_cases hk : k = gone
  · rw [hk, Finmap.lookup_erase, Option.map_eq_none_iff, List.find?_eq_none]
    intro row _
    simp
  · rw [Finmap.lookup_erase_ne hk, ← h.finds k]
    congr 2
    funext row
    by_cases hrow : key row = k
    · simp [hrow, hk]
    · simp [hrow]

/-- A row in front of those with other keys sets its key. -/
theorem cons_erase (h : Holds key value rows m) (row : ρ) :
    Holds key value (row :: rows.filter fun r => key r ≠ key row)
      (m.insert (key row) (value row)) := by
  have herase := h.erase (key row)
  constructor
  · rw [List.map_cons]
    refine List.nodup_cons.mpr ⟨?_, herase.distinct⟩
    intro hmem
    obtain ⟨other, hother, hsame⟩ := List.mem_map.mp hmem
    exact of_decide_eq_true (List.mem_filter.mp hother).2 hsame
  · intro k
    rw [Ledger.lookup_insert]
    by_cases hk : k = key row
    · simp [hk]
    · rw [if_neg hk, ← Finmap.lookup_erase_ne hk, ← herase.finds k,
        List.find?_cons_of_neg (by simpa using Ne.symm hk)]

/-- There are as many rows as keys of the map. -/
theorem length_eq (h : Holds key value rows m) : rows.length = m.keys.card := by
  have hkeys : m.keys = (rows.map key).toFinset := by
    ext k
    rw [Finmap.mem_keys, ← Finmap.lookup_isSome, ← h.finds k, Option.isSome_map, List.find?_isSome,
      List.mem_toFinset, List.mem_map]
    simp
  rw [hkeys, List.toFinset_card_of_nodup h.distinct, List.length_map]

/-- The metadata at a key, empty if there are none. -/
theorem getD_find? {value : ρ → Text} {m : Finmap fun _ : Text => Text} (h : Holds key value rows m)
    (k : Text) :
    ((rows.find? fun r => key r = k).map value).getD [] = (m.lookup k).getD [] := by
  rw [h.finds k]

end Holds

/-- A store in memory keeps what a ledger says. -/
structure Memory.Keeps (m : Memory) (l : Ledger) : Prop where
  /-- The compilations. -/
  entries : Holds Prod.fst Prod.snd m.entries.pairs l.entries
  /-- The metadata. -/
  metadata : Holds Prod.fst Prod.snd m.metadata.pairs l.metadata

/-- A database keeps what a ledger says, and the version of its layout besides. -/
structure Database.Keeps (db : Database) (l : Ledger) : Prop where
  /-- The table of compilations. -/
  compilations : Holds Entry.key id db.compilations l.entries
  /-- The table of metadata. -/
  metadata : Holds MetadataRow.key MetadataRow.value db.metadata
    (l.metadata.insert versionKey schemaVersion)

/-- A store in memory answers a call as its ledger does, and keeps what the ledger says afterwards. -/
theorem Memory.Keeps.call {m : Memory} {l : Ledger} (h : m.Keeps l) (c : StoreCall) :
    ∃ next : Memory, (Store.memory m).call c = .ok ((l.call c).1, .memory next) ∧
      next.Keeps (l.call c).2 := by
  cases c with
  | get key =>
    have hfound : m.get? key = l.entries.lookup key := h.entries.finds key
    refine ⟨m, ?_, h⟩
    simp only [Ledger.call, ← hfound]
    rfl
  | put e => exact ⟨m.put e, rfl, h.entries.cons_erase (e.key, e), h.metadata⟩
  | delete key => exact ⟨m.delete key, rfl, h.entries.erase key, h.metadata⟩
  | purge => exact ⟨m.purge, rfl, .nil, h.metadata⟩
  | size =>
    have hsize : m.size = l.entries.keys.card := h.entries.length_eq
    refine ⟨m, ?_, h⟩
    simp only [Ledger.call, ← hsize]
    rfl
  | getMetadata key =>
    have hvalue : m.metadataAt key = (l.metadata.lookup key).getD [] := h.metadata.getD_find? key
    refine ⟨m, ?_, h⟩
    simp only [Ledger.call, ← hvalue]
    rfl
  | setMetadata key value =>
    exact ⟨m.setMetadata key value, rfl, h.entries, h.metadata.cons_erase (key, value)⟩

/-- A database answers a call that leaves the version of its layout alone as its ledger does, and keeps
what the ledger says afterwards. -/
theorem Database.Keeps.call {db : Database} {l : Ledger} (h : db.Keeps l) {c : StoreCall}
    (hc : c.metadataKey? ≠ some versionKey) :
    ∃ next : Database, (Store.database db).call c = .ok ((l.call c).1, .database next) ∧
      next.Keeps (l.call c).2 := by
  cases c with
  | get key =>
    have hfound : db.get? key = l.entries.lookup key := by
      rw [← h.compilations.finds key, Option.map_id, id_eq, Database.get?]
    refine ⟨db, ?_, h⟩
    simp only [Ledger.call, ← hfound]
    rfl
  | put e => exact ⟨db.put e, rfl, h.compilations.upsert e, h.metadata⟩
  | delete key => exact ⟨db.delete key, rfl, h.compilations.erase key, h.metadata⟩
  | purge => exact ⟨db.purge, rfl, .nil, h.metadata⟩
  | size =>
    have hsize : db.size = l.entries.keys.card := h.compilations.length_eq
    refine ⟨db, ?_, h⟩
    simp only [Ledger.call, ← hsize]
    rfl
  | getMetadata key =>
    have hkey : key ≠ versionKey := fun heq => hc (congrArg some heq)
    have hvalue : db.metadataAt key = (l.metadata.lookup key).getD [] := by
      rw [← Finmap.lookup_insert_of_ne l.metadata hkey]
      exact h.metadata.getD_find? key
    refine ⟨db, ?_, h⟩
    simp only [Ledger.call, ← hvalue]
    rfl
  | setMetadata key value =>
    -- The row of the version stays in its place, as if it were written after the new row.
    have hkey : versionKey ≠ key := fun heq => hc (congrArg some heq.symm)
    have hmetadata := h.metadata.upsert ⟨key, value⟩
    rw [Finmap.insert_insert_of_ne _ hkey] at hmetadata
    exact ⟨db.setMetadata key value, rfl, h.compilations, hmetadata⟩

/-- A database that is closed and opened again is as it was. -/
theorem Database.Keeps.reopen {db : Database} {l : Ledger} (h : db.Keeps l) :
    (Store.database db).close.reopen = .ok (.database db) := by
  have hversion : db.metadataAt versionKey = schemaVersion := by
    have hvalue := h.metadata.getD_find? versionKey
    rwa [Finmap.lookup_insert, Option.getD_some] at hvalue
  have hopened : db.opened = .ok db := by
    rw [opened, hversion, if_neg (by decide), if_pos rfl]
  simp only [Store.close, Store.reopen, hopened]
  rfl

/-- An empty store in memory keeps the empty ledger. -/
theorem Memory.keeps_empty : Memory.empty.Keeps .empty :=
  ⟨.nil, .nil⟩

/-- A new database keeps the empty ledger once it is open. -/
theorem Database.keeps_create : ∃ db : Database,
    (Store.closed .create).reopen = .ok (.database db) ∧ db.Keeps .empty :=
  ⟨create.setMetadata versionKey schemaVersion, rfl, .nil,
    Holds.nil.upsert (⟨versionKey, schemaVersion⟩ : MetadataRow)⟩

/-- A call that is answered stands in front of the answers to the steps after it. -/
theorem Store.answers_cons {s next : Store} {c : StoreCall} {answer : StoreAnswer}
    (h : s.call c = .ok (answer, next)) (rest : List StoreStep) :
    s.answers (.call c :: rest) = (next.answers rest).map (answer :: ·) := by
  rw [answers, h]
  rfl

/-- A store in memory answers calls one after another as its ledger does. -/
theorem Memory.Keeps.answers {calls : List StoreCall} {m : Memory} {l : Ledger} (h : m.Keeps l) :
    (Store.memory m).answers (calls.map .call) = .ok (l.answers calls) := by
  induction calls generalizing m l with
  | nil => rfl
  | cons c rest ih =>
    obtain ⟨next, hcall, hnext⟩ := h.call c
    rw [List.map_cons, Store.answers_cons hcall, ih hnext]
    rfl

/-- A database answers the calls among steps one after another as its ledger does. -/
theorem Database.Keeps.answers {steps : List StoreStep} {db : Database} {l : Ledger} (h : db.Keeps l)
    (hsteps : ∀ c ∈ steps.filterMap StoreStep.call?, c.metadataKey? ≠ some versionKey) :
    (Store.database db).answers steps = .ok (l.answers (steps.filterMap StoreStep.call?)) := by
  induction steps generalizing db l with
  | nil => rfl
  | cons step rest ih =>
    cases step with
    | call c =>
      simp only [List.filterMap_cons, StoreStep.call?] at hsteps ⊢
      obtain ⟨hc, hrest⟩ := List.forall_mem_cons.mp hsteps
      obtain ⟨next, hcall, hnext⟩ := h.call hc
      rw [Store.answers_cons hcall, ih hnext hrest]
      rfl
    | reopen =>
      simp only [List.filterMap_cons, StoreStep.call?] at hsteps ⊢
      rw [Store.answers, h.reopen]
      exact ih h hsteps

/-- A new database that is called, closed and opened again in any order, and an empty store in memory
that is called the same, both answer as the empty ledger does, if no call is about the version of the
layout. -/
theorem Store.answers_eq_ledger (steps : List StoreStep)
    (hsteps : ∀ c ∈ steps.filterMap StoreStep.call?,
      c.metadataKey? ≠ some Database.versionKey) :
    ((Store.closed .create).reopen >>= fun s => s.answers steps) =
        .ok (Ledger.empty.answers (steps.filterMap StoreStep.call?)) ∧
      (Store.memory .empty).answers ((steps.filterMap StoreStep.call?).map .call) =
        .ok (Ledger.empty.answers (steps.filterMap StoreStep.call?)) := by
  obtain ⟨db, hopen, hkeeps⟩ := Database.keeps_create
  constructor
  · rw [hopen]
    exact hkeeps.answers hsteps
  · exact Memory.keeps_empty.answers

/-- Two compilations of which one is overwritten, with the database closed in between, and a purge that
leaves the metadata. -/
def overwritten : List StoreStep :=
  [.call (.put ⟨"a", "(f)", "f()"⟩), .call (.put ⟨"b", "1", "1"⟩), .reopen,
   .call (.put ⟨"a", "(f)", "g()"⟩), .call .size, .call (.get "a"), .call (.setMetadata "library" "x"),
   .reopen, .call (.delete "b"), .call (.get "b"), .call .purge, .call .size,
   .call (.getMetadata "library"), .call (.getMetadata "missing")]

/-- The answers to these steps. -/
def overwrittenAnswers : List StoreAnswer :=
  [.done, .done, .done, .size 2, .entry (some ⟨"a", "(f)", "g()"⟩), .done, .done, .entry none, .done,
   .size 0, .metadata "x", .metadata []]

/-- No step is about the version of the layout, so the database answers as the store in memory. -/
theorem Store.answers_overwritten :
    (∀ c ∈ overwritten.filterMap StoreStep.call?, c.metadataKey? ≠ some Database.versionKey) ∧
      ((Store.closed .create).reopen >>= fun s => s.answers overwritten) = .ok overwrittenAnswers ∧
      Ledger.empty.answers (overwritten.filterMap StoreStep.call?) = overwrittenAnswers := by
  have hsteps : ∀ c ∈ overwritten.filterMap StoreStep.call?,
      c.metadataKey? ≠ some Database.versionKey := by
    decide
  obtain ⟨hdatabase, hmemory⟩ := answers_eq_ledger overwritten hsteps
  have hanswers : (Store.memory .empty).answers
      ((overwritten.filterMap StoreStep.call?).map .call) = .ok overwrittenAnswers := rfl
  rw [hanswers] at hmemory
  have hledger := Except.ok.inj hmemory
  rw [← hledger] at hdatabase
  exact ⟨hsteps, hdatabase, hledger.symm⟩

end SwiftForms
