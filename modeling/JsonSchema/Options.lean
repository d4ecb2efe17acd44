import JsonSchema.Format
import JsonSchema.Instance
import JsonSchema.Retrieval.Memory
import JsonSchema.Url.Basic

/-!
# Options of a check

## What is here

* `Options` — everything besides schema and instance that decides the outcome of a check.
-/

set_option autoImplicit false

namespace JsonSchema

/-- How deep schemas may nest unless an option says otherwise. -/
def defaultMaxDepth : Nat := 100

/-- Everything besides schema and instance that decides the outcome of a check. -/
structure Options where
  mode : Mode
  maxDepth : Nat
  library : Library
  formats : Formats
  baseUri : Option Url

/-- Strict, with the default limit, no base and no documents. -/
def Options.withFormats (formats : Formats) : Options where
  mode := .strict
  maxDepth := defaultMaxDepth
  library := Memory.empty.library
  formats := formats
  baseUri := none

end JsonSchema
