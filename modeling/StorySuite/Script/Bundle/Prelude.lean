/-!
# Script — the prelude of a bundle

The functions that make a required module look like one that exports by name.
-/

namespace StorySuite.Script

/-- The lines of the prelude. -/
def preludeLines : List String := [
  "//#region rolldown:runtime",
  "var __create = Object.create;",
  "var __defProp = Object.defineProperty;",
  "var __getOwnPropDesc = Object.getOwnPropertyDescriptor;",
  "var __getOwnPropNames = Object.getOwnPropertyNames;",
  "var __getProtoOf = Object.getPrototypeOf;",
  "var __hasOwnProp = Object.prototype.hasOwnProperty;",
  "var __copyProps = (to, from, except, desc) => \x7b",
  "\tif (from && typeof from === \"object\" || typeof from === \"function\") \x7b",
  "\t\tfor (var keys = __getOwnPropNames(from), i = 0, n = keys.length, key; i < n; i++) \x7b",
  "\t\t\tkey = keys[i];",
  "\t\t\tif (!__hasOwnProp.call(to, key) && key !== except) \x7b",
  "\t\t\t\t__defProp(to, key, \x7b",
  "\t\t\t\t\tget: ((k) => from[k]).bind(null, key),",
  "\t\t\t\t\tenumerable: !(desc = __getOwnPropDesc(from, key)) || desc.enumerable",
  "\t\t\t\t\x7d);",
  "\t\t\t\x7d",
  "\t\t\x7d",
  "\t\x7d",
  "\treturn to;",
  "\x7d;",
  "var __toESM = (mod, isNodeMode, target) => (target = mod != null ? " ++
    "__create(__getProtoOf(mod)) : \x7b\x7d, __copyProps(isNodeMode || !mod || " ++
    "!mod.__esModule ? __defProp(target, \"default\", \x7b",
  "\tvalue: mod,",
  "\tenumerable: true",
  "\x7d) : target, mod));",
  "",
  "//#endregion"]

/-- The names that the prelude declares. -/
def preludeNames : List String := [
  "__create", "__defProp", "__getOwnPropDesc", "__getOwnPropNames", "__getProtoOf",
  "__hasOwnProp", "__copyProps", "__toESM"]

/-- The prelude. -/
def prelude : String :=
  String.join (preludeLines.map (· ++ "\n"))

end StorySuite.Script
