import SwiftForms.Dict
import SwiftForms.Digest
import SwiftForms.Library.Declared
import SwiftForms.Text.Quoted

/-!
# Libraries of builtin functions

A library is a Swift runtime text together with the builtin functions that a program may call. A
builtin has a name in the source, a target in Swift, parameters, a Swift implementation unless Swift
provides it, and a style in which its calls are written. Names and targets are not empty and not
repeated, and only calls written with round brackets may have other than two parameters. The builtins are
taken in one after another, and the place of each is kept under its name and under its target.
-/

namespace SwiftForms

/-- How calls of a builtin are written. -/
inductive Style where
  /-- As `target(a,b)`. -/
  | call
  /-- As a chain `(a target b)` in round brackets. -/
  | chain
  /-- As a comparison `a target b`. -/
  | comparison
  /-- A style with a number beyond the three, written like a call. -/
  | other (number : Int) (beyond : number < 0 ∨ 2 < number)
  deriving DecidableEq, Repr

namespace Style

/-- The style with a number. -/
def ofNumber (n : Int) : Style :=
  if n = 0 then .call
  else if n = 1 then .chain
  else if n = 2 then .comparison
  else if h : n < 0 ∨ 2 < n then .other n h
  else .call

/-- The number of a style. -/
def number : Style → Int
  | .call => 0
  | .chain => 1
  | .comparison => 2
  | .other n _ => n

/-- The name of a style. -/
def name : Style → Text
  | .call => "call"
  | .chain => "infix"
  | .comparison => "compare"
  | .other _ _ => "unknown"

end Style

/-- A builtin function. -/
structure Builtin where
  /-- Its name in the source. -/
  name : Text
  /-- The Swift identifier or operator that calls it. -/
  target : Text
  /-- Its parameters; their number is the number of arguments of a call. -/
  params : List Text
  /-- Its Swift implementation, empty when Swift provides it. -/
  native : Text
  /-- How its calls are written. -/
  style : Style
  deriving DecidableEq, Repr

/-- The causes for which a list of builtins makes no library. -/
inductive LibraryFault where
  /-- The builtin with this number, from zero, has no name or no target. -/
  | unnamed (index : Nat)
  /-- Two builtins have this name. -/
  | repeatedName (name : Text)
  /-- Two builtins have this target. -/
  | repeatedTarget (target : Text)
  /-- The style of the builtin with this name needs two parameters. -/
  | wrongParameters (name : Text) (style : Style)
  deriving DecidableEq, Repr

/-- The message of a fault. -/
def LibraryFault.message : LibraryFault → Text
  | .unnamed index => "builtin " ++ Text.ofNat index ++ ": name and target are required"
  | .repeatedName name => "builtin " ++ name.quoted ++ " declared twice"
  | .repeatedTarget target => "builtin target " ++ target.quoted ++ " declared twice"
  | .wrongParameters name style =>
    "builtin " ++ name.quoted ++ ": " ++ style.name ++ " style needs exactly two parameters"

/-- Builtins in order of declaration, with the place of each by its name and by its target. -/
@[ext] structure Catalog where
  /-- The builtins. -/
  builtins : List Builtin
  /-- The places, from zero, by name in the source. -/
  byName : Dict Nat
  /-- The places, from zero, by target in Swift. -/
  byTarget : Dict Nat

namespace Catalog

/-- The catalog without builtins. -/
def empty : Catalog :=
  ⟨[], .empty, .empty⟩

/-- What is wrong with a builtin that is to be added. -/
def fault? (c : Catalog) (b : Builtin) : Option LibraryFault :=
  if b.name = [] ∨ b.target = [] then some (.unnamed c.builtins.length)
  else if (c.byName.find? b.name).isSome then some (.repeatedName b.name)
  else if (c.byTarget.find? b.target).isSome then some (.repeatedTarget b.target)
  else if b.style ≠ .call ∧ b.params.length ≠ 2 then some (.wrongParameters b.name b.style)
  else none

/-- The catalog with one more builtin. -/
def add (c : Catalog) (b : Builtin) : Catalog where
  builtins := c.builtins ++ [b]
  byName := c.byName.insert b.name c.builtins.length
  byTarget := c.byTarget.insert b.target c.builtins.length

/-- The catalog with more builtins, added one after another, or the fault of the first one that has a
fault. -/
def extend (c : Catalog) : List Builtin → Except LibraryFault Catalog
  | [] => .ok c
  | b :: rest =>
    match c.fault? b with
    | some fault => .error fault
    | none => (c.add b).extend rest

/-- A catalog is extended by adding the builtins in turn. -/
theorem eq_of_extend {c d : Catalog} {builtins : List Builtin} (h : c.extend builtins = .ok d) :
    d = builtins.foldl add c := by
  induction builtins generalizing c with
  | nil =>
    cases h
    rfl
  | cons b rest ih =>
    rw [extend] at h
    split at h
    · cases h
    · exact ih h

/-- Builtins are added behind those that are there. -/
theorem builtins_foldl_add (c : Catalog) (builtins : List Builtin) :
    (builtins.foldl add c).builtins = c.builtins ++ builtins := by
  induction builtins generalizing c with
  | nil => exact (List.append_nil _).symm
  | cons b rest ih =>
    rw [List.foldl_cons, ih, add, List.append_assoc]
    rfl

/-- A catalog that is built up from nothing is built up of its builtins. -/
theorem extend_builtins {c : Catalog} {builtins : List Builtin} (h : empty.extend builtins = .ok c) :
    empty.extend c.builtins = .ok c := by
  have hsame : c.builtins = builtins := by
    rw [eq_of_extend h, builtins_foldl_add]
    rfl
  rw [hsame, h]

end Catalog

/-- A Swift runtime and builtin functions without a fault. -/
structure Library extends Catalog where
  /-- The Swift text that the implementations rely on. -/
  runtime : Text
  /-- The builtins have been added one after another. -/
  built : Catalog.empty.extend builtins = .ok toCatalog

namespace Library

/-- The library of a runtime and a list of builtins, or the first fault of the list. -/
def build (runtime : Text) (builtins : List Builtin) : Except LibraryFault Library :=
  match h : Catalog.empty.extend builtins with
  | .error fault => .error fault
  | .ok catalog => .ok ⟨catalog, runtime, Catalog.extend_builtins h⟩

/-- The library of a runtime and a list of builtins that has no fault. -/
def ofBuiltins (runtime : Text) (builtins : List Builtin)
    (sound : (Catalog.empty.extend builtins).isOk = true) : Library where
  builtins := builtins
  byName := (builtins.foldl Catalog.add .empty).byName
  byTarget := (builtins.foldl Catalog.add .empty).byTarget
  runtime := runtime
  built := by
    cases h : Catalog.empty.extend builtins with
    | error fault =>
      rw [h] at sound
      cases sound
    | ok catalog =>
      obtain rfl := Catalog.eq_of_extend h
      exact congrArg Except.ok (Catalog.ext (Catalog.builtins_foldl_add .empty builtins) rfl rfl)

/-- The builtin with a name in the source. -/
def named? (lib : Library) (name : Text) : Option Builtin :=
  (lib.byName.find? name).bind fun place => lib.builtins[place]?

/-- The builtin with a target in Swift. -/
def targeted? (lib : Library) (target : Text) : Option Builtin :=
  (lib.byTarget.find? target).bind fun place => lib.builtins[place]?

/-- The identifiers of Swift's own library that implementations rely on. -/
def swiftNames : List Text :=
  ["Swift", "Foundation", "Int", "Double", "String", "Bool", "readLine", "fatalError"].map
    Text.ofString

/-- The identifiers that a program must not declare: those of Swift's own library, and those that
the runtime and the implementations declare. -/
def reserved (lib : Library) : List Text :=
  swiftNames ++ Declared.names lib.runtime ++ lib.builtins.flatMap fun b => Declared.names b.native

/-- Whether a program must not declare an identifier. -/
def isReserved (lib : Library) (identifier : Text) : Bool :=
  lib.reserved.contains identifier

/-- The parts of a builtin, each closed by a zero byte. -/
def recordOf (b : Builtin) : Text :=
  [b.name, b.target, Text.join "," b.params, Text.ofInt b.style.number, b.native].flatMap
    fun part => part ++ [.char '\x00']

/-- The contents of a library as one text: the runtime and the builtins, each part closed by a zero
byte. -/
def record (lib : Library) : Text :=
  lib.runtime ++ .char '\x00' :: lib.builtins.flatMap recordOf

/-- The digest of a library's contents. -/
def fingerprint (lib : Library) : Text :=
  lib.record.digest

end Library

end SwiftForms
