/-! # Names with a meaning of their own

The names that the language itself provides, and the names that stand for the global object. -/

namespace DepTriage.JavaScript

/-- The standard library of the language. Reading one of these tells nothing about a package;
`eval` is not among them, since it runs text as code. -/
def standardGlobals : List String :=
  ["AggregateError", "Array", "ArrayBuffer", "Atomics", "BigInt", "BigInt64Array",
   "BigUint64Array", "Boolean", "DataView", "Date", "Error", "EvalError", "FinalizationRegistry",
   "Float16Array", "Float32Array", "Float64Array", "Function", "Infinity", "Int16Array",
   "Int32Array", "Int8Array", "Intl", "Iterator", "JSON", "Map", "Math", "NaN", "Number",
   "Object", "Promise", "Proxy", "RangeError", "ReferenceError", "Reflect", "RegExp", "Set",
   "SharedArrayBuffer", "String", "Symbol", "SyntaxError", "TypeError", "Uint16Array",
   "Uint32Array", "Uint8Array", "Uint8ClampedArray", "URIError", "WeakMap", "WeakRef", "WeakSet",
   "decodeURI", "decodeURIComponent", "encodeURI", "encodeURIComponent", "escape", "globalThis",
   "isFinite", "isNaN", "parseFloat", "parseInt", "undefined", "unescape"]

def isStandardGlobal (name : String) : Bool :=
  standardGlobals.contains name

/-- The names that evaluate to the global object itself. -/
def globalAliases : List String :=
  ["globalThis", "self", "window"]

def isGlobalAlias (name : String) : Bool :=
  globalAliases.contains name

/-- The name that every function but an arrow binds without declaring it. -/
def implicitArguments : String := "arguments"

/-- Drops a leading `__webpack_require__.g`, by which bundled code reaches the global object. -/
def dropBundlerGlobal : List String → List String
  | "__webpack_require__" :: "g" :: rest => rest
  | chain => chain

end DepTriage.JavaScript
