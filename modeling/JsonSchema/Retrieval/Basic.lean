import JsonSchema.Json.Basic

/-!
# Retrieving documents

Schemas refer to documents by location. What supplies them is a retriever: a machine with a state, because it
may count, remember, or answer differently at another time.

## What is here

* `RetrievalError` — why no document is supplied, the report of it, and the exit code that goes with it.
* `Library` — the answers a retriever gives while an evaluation runs.
* `Retriever` — the machine; `Retriever.library` are its present answers, `Retriever.after` is its state after
  a sequence of requests.
-/

set_option autoImplicit false

namespace JsonSchema

/-- Why a document is not supplied. -/
inductive RetrievalError where
  | fileNotFound (path : String)
  | unreadable (path reason : String)
  | invalidJson (reason : String)
  | unknownLocation (uri : String)
  | unsupportedScheme (uri : String)
deriving DecidableEq, Repr, Inhabited

namespace RetrievalError

/-- The report of the failure. -/
def message : RetrievalError → String
  | .fileNotFound path => "file not found: " ++ path
  | .unreadable path reason => "cannot read " ++ path ++ ": " ++ reason
  | .invalidJson reason => "invalid JSON: " ++ reason
  | .unknownLocation uri => "no schema registered for " ++ uri
  | .unsupportedScheme uri => "unsupported URI scheme in " ++ uri

/-- The exit code of a command that fails for this reason: 3 if the system refused, 2 otherwise. -/
def exitCode : RetrievalError → Nat
  | .fileNotFound _ | .unreadable _ _ => 3
  | _ => 2

end RetrievalError

/-- What is supplied for each location. -/
abbrev Library := String → Except RetrievalError Json

/-- A source of documents with states of type `σ`. -/
abbrev Retriever (σ : Type) := σ → String → Except RetrievalError Json × σ

namespace Retriever

variable {σ : Type}

/-- The answers in a state. -/
def library (r : Retriever σ) (s : σ) : Library := fun uri => (r s uri).1

/-- The state after a sequence of requests. -/
def after (r : Retriever σ) (s : σ) (requests : List String) : σ :=
  requests.foldl (fun s uri => (r s uri).2) s

end Retriever

end JsonSchema
