import SwiftForms.Library.Basic

/-!
# The standard library

Arithmetic, comparisons, equality, printing, conversion to text, random numbers and input: the runtime in
Swift that every compiled program starts with, the Swift implementations of the builtins, and the builtins
themselves.
-/

namespace SwiftForms

namespace StandardSource

/-- A Swift text from its lines. -/
def swiftLines (parts : List String) : Text :=
  Text.join "\n" (parts.map Text.ofString)

/-- The type of all values, its conversions and the operators on it. -/
def valueType : Text :=
  swiftLines [
    "enum Value: CustomStringConvertible, ExpressibleByIntegerLiteral, ExpressibleByFloatLiteral,",
    "            ExpressibleByStringLiteral, ExpressibleByBooleanLiteral \x7b",
    "    case integer(Int)",
    "    case float(Double)",
    "    case string(String)",
    "    case boolean(Bool)",
    "",
    "    init(integerLiteral value: Int) \x7b self = .integer(value) \x7d",
    "    init(floatLiteral value: Double) \x7b self = .float(value) \x7d",
    "    init(stringLiteral value: String) \x7b self = .string(value) \x7d",
    "    init(booleanLiteral value: Bool) \x7b self = .boolean(value) \x7d",
    "",
    "    var description: String \x7b",
    "        switch self \x7b",
    "        case .integer(let i): return String(i)",
    "        case .float(let d): return String(d)",
    "        case .string(let s): return s",
    "        case .boolean(let b): return String(b)",
    "        \x7d",
    "    \x7d",
    "",
    "    var double: Double? \x7b",
    "        switch self \x7b",
    "        case .integer(let i): return Double(i)",
    "        case .float(let d): return d",
    "        default: return nil",
    "        \x7d",
    "    \x7d",
    "\x7d",
    "",
    "func arithmetic(_ a: Value, _ b: Value, _ ints: (Int, Int) -> Int, _ doubles: (Double, Double) -> Double) -> Value \x7b",
    "    if case .integer(let l) = a, case .integer(let r) = b \x7b",
    "        return .integer(ints(l, r))",
    "    \x7d",
    "    guard let l = a.double, let r = b.double else \x7b",
    "        fatalError(\"Unsupported data types: \\(a) \\(b)\")",
    "    \x7d",
    "    return .float(doubles(l, r))",
    "\x7d",
    "",
    "func compare(_ a: Value, _ b: Value) -> Int \x7b",
    "    if case .string(let l) = a, case .string(let r) = b \x7b",
    "        return l < r ? -1 : (l > r ? 1 : 0)",
    "    \x7d",
    "    guard let l = a.double, let r = b.double else \x7b",
    "        fatalError(\"Unsupported data types: \\(a) \\(b)\")",
    "    \x7d",
    "    return l < r ? -1 : (l > r ? 1 : 0)",
    "\x7d",
    "",
    "func - (a: Value, b: Value) -> Value \x7b arithmetic(a, b, \x7b $0 - $1 \x7d, \x7b $0 - $1 \x7d) \x7d",
    "func * (a: Value, b: Value) -> Value \x7b arithmetic(a, b, \x7b $0 * $1 \x7d, \x7b $0 * $1 \x7d) \x7d",
    "func / (a: Value, b: Value) -> Value \x7b arithmetic(a, b, \x7b $0 / $1 \x7d, \x7b $0 / $1 \x7d) \x7d",
    "func < (a: Value, b: Value) -> Value \x7b .boolean(compare(a, b) < 0) \x7d",
    "func > (a: Value, b: Value) -> Value \x7b .boolean(compare(a, b) > 0) \x7d",
    "func <= (a: Value, b: Value) -> Value \x7b .boolean(compare(a, b) <= 0) \x7d",
    "func >= (a: Value, b: Value) -> Value \x7b .boolean(compare(a, b) >= 0) \x7d",
    "",
    "func truthy(_ v: Value) -> Bool \x7b",
    "    switch v \x7b",
    "    case .integer(let i): return i != 0",
    "    case .float(let d): return d != 0",
    "    case .string(let s): return !s.isEmpty",
    "    case .boolean(let b): return b",
    "    \x7d",
    "\x7d"]

/-- Addition, which joins texts. -/
def add : Text :=
  swiftLines [
    "@discardableResult",
    "func add(_ a: Value, _ b: Value) -> Value \x7b",
    "    if case .string(let l) = a, case .string(let r) = b \x7b",
    "        return .string(l + r)",
    "    \x7d",
    "    return arithmetic(a, b, \x7b $0 + $1 \x7d, \x7b $0 + $1 \x7d)",
    "\x7d"]

/-- Equality of values. -/
def equal : Text :=
  swiftLines [
    "@discardableResult",
    "func equal(_ a: Value, _ b: Value) -> Value \x7b",
    "    switch (a, b) \x7b",
    "    case (.string(let l), .string(let r)):",
    "        return .boolean(l == r)",
    "    case (.boolean(let l), .boolean(let r)):",
    "        return .boolean(l == r)",
    "    default:",
    "        guard let l = a.double, let r = b.double else \x7b",
    "            return false",
    "        \x7d",
    "        return .boolean(l == r)",
    "    \x7d",
    "\x7d"]

/-- Printing a value on a line. -/
def print : Text :=
  swiftLines [
    "@discardableResult",
    "func print(_ a: Value) -> Value \x7b",
    "    Swift.print(a)",
    "    return a",
    "\x7d"]

/-- The text of a value. -/
def str : Text :=
  swiftLines [
    "@discardableResult",
    "func str(_ a: Value) -> Value \x7b",
    "    return .string(a.description)",
    "\x7d"]

/-- A random integer between two bounds. -/
def random : Text :=
  swiftLines [
    "@discardableResult",
    "func random(_ a: Value, _ b: Value) -> Value \x7b",
    "    guard case .integer(let low) = a, case .integer(let high) = b, low <= high else \x7b",
    "        fatalError(\"Unsupported data types: \\(a) \\(b)\")",
    "    \x7d",
    "    return .integer(Int.random(in: low...high))",
    "\x7d"]

/-- A line of input. -/
def readline : Text :=
  swiftLines [
    "@discardableResult",
    "func readline() -> Value \x7b",
    "    return .string(readLine() ?? \"\")",
    "\x7d"]

end StandardSource

namespace Library

/-- The standard builtins. -/
def standardBuiltins : List Builtin :=
  [⟨"+", "add", ["a", "b"], StandardSource.add, .call⟩,
   ⟨"-", "-", ["a", "b"], [], .chain⟩,
   ⟨"*", "*", ["a", "b"], [], .chain⟩,
   ⟨"/", "/", ["a", "b"], [], .chain⟩,
   ⟨"<", "<", ["a", "b"], [], .comparison⟩,
   ⟨">", ">", ["a", "b"], [], .comparison⟩,
   ⟨"<=", "<=", ["a", "b"], [], .comparison⟩,
   ⟨">=", ">=", ["a", "b"], [], .comparison⟩,
   ⟨"==", "equal", ["a", "b"], StandardSource.equal, .call⟩,
   ⟨"print", "print", ["a"], StandardSource.print, .call⟩,
   ⟨"str", "str", ["a"], StandardSource.str, .call⟩,
   ⟨"random", "random", ["a", "b"], StandardSource.random, .call⟩,
   ⟨"readline", "readline", [], StandardSource.readline, .call⟩]

/-- The standard library. -/
def standard : Library :=
  .ofBuiltins StandardSource.valueType standardBuiltins (by decide)

end Library

end SwiftForms
