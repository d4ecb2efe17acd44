import JsonSchema.Retrieval.Basic

/-!
# Documents held in memory

## What is here

* `Memory` — documents by location, where trailing hash signs of a location do not count.
* `Counting` — a source that counts how often it is asked.
* `Caching` — **a source that asks another one at most once for each document**: answers are kept, failures are
  not.
-/

set_option autoImplicit false

namespace JsonSchema

/-- Documents by location. -/
structure Memory where
  documents : List (String × Json)

namespace Memory

/-- No documents. -/
def empty : Memory := ⟨[]⟩

/-- A location without trailing hash signs. -/
def normalise (uri : String) : String :=
  String.ofList (uri.toList.reverse.dropWhile (· == '#')).reverse

/-- Holds a document at a location, in place of the one held before. -/
def insert (m : Memory) (uri : String) (document : Json) : Memory :=
  ⟨Json.insert m.documents (normalise uri) document⟩

/-- Holds the members of an object, each at the location that is its key. -/
def ofMembers (members : Members) : Memory :=
  members.foldl (fun m (uri, document) => m.insert uri document) empty

/-- The number of documents. -/
def size (m : Memory) : Nat := m.documents.length

/-- What is held at a location. -/
def library (m : Memory) : Library := fun uri =>
  match m.documents.lookup (normalise uri) with
  | some document => .ok document
  | none => .error (.unknownLocation uri)

/-- A memory as a source; being asked does not change it. -/
def retriever : Retriever Memory := fun m uri => (m.library uri, m)

end Memory

/-- A source and how often it has been asked. -/
structure Counting (σ : Type) where
  inner : σ
  calls : Nat

/-- Asks the source, and counts. -/
def Counting.retriever {σ : Type} (r : Retriever σ) : Retriever (Counting σ) := fun s uri =>
  let (answer, inner) := r s.inner uri
  (answer, ⟨inner, s.calls + 1⟩)

/-- A source and the documents it has supplied, by the location as it was asked for. -/
structure Caching (σ : Type) where
  inner : σ
  documents : List (String × Json)

namespace Caching

variable {σ : Type}

/-- A source that has not been asked. -/
def start (inner : σ) : Caching σ := ⟨inner, []⟩

/-- Answers from what is kept, or asks the source and keeps a document. -/
def retriever (r : Retriever σ) : Retriever (Caching σ) := fun s uri =>
  match s.documents.lookup uri with
  | some document => (.ok document, s)
  | none =>
    match r s.inner uri with
    | (.ok document, inner) => (.ok document, ⟨inner, s.documents ++ [(uri, document)]⟩)
    | (.error e, inner) => (.error e, { s with inner })

/-- The number of documents kept. -/
def cached (s : Caching σ) : Nat := s.documents.length

end Caching

end JsonSchema
