import Mathlib.Data.Finset.Card
import Mathlib.Data.List.Nodup
import JsonSchema.Proofs.Json.Equality
import JsonSchema.Retrieval.Memory

/-!
# Every document is fetched once

A source that keeps documents passes a request on to the source behind it as long as it has not been supplied with a
document for the location, and never again after that. What it keeps is therefore what can be read off the requests and
the answers so far, whatever the source behind it does, and however its answers change with time.

## What is here

* `Retriever.history` — requests with the answers to them.
* `History.firstSupplied`, `History.supplied`, `History.passedOn` — what a history says: the document that a location was
  supplied with first, the locations that were supplied, and the requests before the first success of their location.
* `Caching.Keeps` — what is kept for a location is what it was supplied with first, and no other request was passed on.
  `Caching.Keeps.request`, `Caching.keeps_after` — one request, and all of them.
* `Caching.fetches_once` — **which requests are passed on, what is answered, and how many documents are kept**.
-/

set_option autoImplicit false

namespace JsonSchema

/-! ## Histories -/

/-- Requests and the answers to them, in order. -/
abbrev History := List (String × Except RetrievalError Json)

namespace History

/-- The document that a location was supplied with first. -/
def firstSupplied (h : History) (uri : String) : Option Json :=
  h.findSome? fun entry => if entry.1 = uri then entry.2.toOption else none

/-- The locations for which there was a document, as often as there was one. -/
def supplied (h : History) : List String :=
  h.filterMap fun entry => entry.2.toOption.map fun _ => entry.1

/-- The requests for locations that were not supplied before; `seen` is what went before the history. -/
def passedOnAfter (seen : History) : History → List String
  | [] => []
  | entry :: rest =>
    (if seen.firstSupplied entry.1 = none then [entry.1] else []) ++ passedOnAfter (seen ++ [entry]) rest

/-- The requests for locations that were not supplied before. -/
def passedOn (h : History) : List String := passedOnAfter [] h

variable {h : History} {uri : String} {e : RetrievalError} {document : Json}

theorem firstSupplied_concat (entry : String × Except RetrievalError Json) :
    firstSupplied (h ++ [entry]) uri =
      (h.firstSupplied uri).or (if entry.1 = uri then entry.2.toOption else none) := by
  rw [firstSupplied, List.findSome?_append]
  congr 1
  rw [List.findSome?_singleton]

theorem passedOnAfter_append (seen h k : History) :
    passedOnAfter seen (h ++ k) = passedOnAfter seen h ++ passedOnAfter (seen ++ h) k := by
  induction h generalizing seen with
  | nil => simp [passedOnAfter]
  | cons entry h ih => simp [passedOnAfter, ih, List.append_assoc]

theorem passedOn_concat (entry : String × Except RetrievalError Json) :
    passedOn (h ++ [entry]) = h.passedOn ++ if h.firstSupplied entry.1 = none then [entry.1] else [] := by
  simp [passedOn, passedOnAfter_append, passedOnAfter]

theorem supplied_concat_error : supplied (h ++ [(uri, .error e)]) = h.supplied := by
  simp [supplied, Except.toOption]

theorem supplied_concat_ok : supplied (h ++ [(uri, .ok document)]) = h.supplied ++ [uri] := by
  simp [supplied, Except.toOption]

/-- A location was supplied if there is a first document for it. -/
theorem mem_supplied_iff : uri ∈ h.supplied ↔ ∃ document, h.firstSupplied uri = some document := by
  induction h using List.reverseRecOn with
  | nil => simp [supplied, firstSupplied]
  | append_singleton h entry ih =>
    obtain ⟨other, answer⟩ := entry
    rw [firstSupplied_concat]
    cases answer with
    | error e => simp [supplied_concat_error, ih, Except.toOption]
    | ok document =>
      rw [supplied_concat_ok, List.mem_append, ih, List.mem_singleton]
      cases firstSupplied h uri with
      | some first => simp
      | none => simp [Except.toOption, eq_comm]

end History

namespace Retriever

variable {σ : Type}

/-- Requests with the answers to them, from a state on. -/
def history (r : Retriever σ) (s : σ) : List String → History
  | [] => []
  | uri :: requests => (uri, (r s uri).1) :: history r (r s uri).2 requests

theorem after_concat (r : Retriever σ) (s : σ) (requests : List String) (uri : String) :
    r.after s (requests ++ [uri]) = (r (r.after s requests) uri).2 := by
  simp [after, List.foldl_append]

theorem history_concat (r : Retriever σ) (s : σ) (requests : List String) (uri : String) :
    r.history s (requests ++ [uri]) = r.history s requests ++ [(uri, (r (r.after s requests) uri).1)] := by
  induction requests generalizing s with
  | nil => rfl
  | cons first requests ih => simp [history, ih, after]

end Retriever

/-! ## The source that keeps documents -/

namespace Caching

variable {σ : Type} {r : Retriever σ} {inner : σ} {c : Caching σ} {h : History} {uri : String}

/-- A document that is kept is the answer, and nobody is asked. -/
theorem retriever_of_kept {document : Json} (hkept : c.documents.lookup uri = some document) :
    retriever r c uri = (.ok document, c) := by
  simp [retriever, hkept]

/-- Without a document the source behind is asked once. Its answer is passed on, and a document is kept. -/
theorem retriever_of_missing (hmissing : c.documents.lookup uri = none) :
    retriever r c uri = ((r c.inner uri).1, ⟨(r c.inner uri).2,
      c.documents ++ ((r c.inner uri).1.toOption.map fun document => (uri, document)).toList⟩) := by
  unfold retriever
  rw [hmissing]
  rcases r c.inner uri with ⟨_ | _, _⟩ <;> simp [Except.toOption]

/-- What a source that keeps documents has to do with the requests and answers so far. -/
structure Keeps (r : Retriever σ) (inner : σ) (c : Caching σ) (h : History) : Prop where
  /-- What is kept for a location is what it was supplied with first. -/
  lookup : ∀ uri, c.documents.lookup uri = h.firstSupplied uri
  /-- No location is kept twice. -/
  nodup : (c.documents.map (·.1)).Nodup
  /-- The source behind has had the requests for locations that were not supplied before, and no others. -/
  inner : c.inner = r.after inner h.passedOn

theorem keeps_start : Keeps r inner (start inner) [] where
  lookup _ := rfl
  nodup := List.nodup_nil
  inner := rfl

/-- A location without a document is not among those that have one. -/
theorem not_mem_locations (hmissing : c.documents.lookup uri = none) : uri ∉ c.documents.map (·.1) := by
  intro hmem
  obtain ⟨document, hkept⟩ := Json.hasKey_iff_find?.mp (Json.mem_keys_iff_hasKey.mp hmem)
  rw [Json.find?, hmissing] at hkept
  cases hkept

/-- A request keeps it so. -/
theorem Keeps.request (hc : Keeps r inner c h) (uri : String) :
    Keeps r inner (retriever r c uri).2 (h ++ [(uri, (retriever r c uri).1)]) := by
  cases hfirst : h.firstSupplied uri with
  | some first =>
    rw [retriever_of_kept ((hc.lookup uri).trans hfirst)]
    refine ⟨fun other => ?_, hc.nodup, ?_⟩
    · rw [hc.lookup, History.firstSupplied_concat]
      by_cases hother : uri = other
      · simp [← hother, hfirst]
      · simp [hother]
    · simp [History.passedOn_concat, hfirst, hc.inner]
  | none =>
    have hmissing := (hc.lookup uri).trans hfirst
    rw [retriever_of_missing hmissing]
    refine ⟨fun other => ?_, ?_, ?_⟩
    · rw [List.lookup_append, hc.lookup, History.firstSupplied_concat]
      cases (r c.inner uri).1 with
      | error e => simp [Except.toOption]
      | ok document =>
        by_cases hother : uri = other
        · simp [hother, Except.toOption]
        · have hne : (other == uri) = false := beq_eq_false_iff_ne.mpr (Ne.symm hother)
          simp [hother, hne, Except.toOption, List.lookup_cons]
    · cases (r c.inner uri).1 with
      | error e => simpa [Except.toOption] using hc.nodup
      | ok document =>
        have hkeys : (c.documents ++ [(uri, document)]).map (·.1) = (c.documents.map (·.1)).concat uri := by simp
        exact hkeys ▸ (hc.nodup.concat (not_mem_locations hmissing))
    · rw [History.passedOn_concat, if_pos hfirst, Retriever.after_concat, hc.inner]

/-- It stays so over any requests. -/
theorem keeps_after (r : Retriever σ) (inner : σ) (requests : List String) :
    Keeps r inner ((retriever r).after (start inner) requests) ((retriever r).history (start inner) requests) := by
  induction requests using List.reverseRecOn with
  | nil => exact keeps_start
  | append_singleton requests uri ih =>
    rw [Retriever.after_concat, Retriever.history_concat]
    exact ih.request uri

/-- There are as many documents as locations that were supplied. -/
theorem Keeps.cached_eq (hc : Keeps r inner c h) : c.cached = h.supplied.toFinset.card := by
  have hkeys : (c.documents.map (·.1)).toFinset = h.supplied.toFinset := by
    ext uri
    rw [List.mem_toFinset, List.mem_toFinset, History.mem_supplied_iff, ← hc.lookup, Json.mem_keys_iff_hasKey]
    exact Json.hasKey_iff_find?
  rw [← hkeys, List.toFinset_card_of_nodup hc.nodup, List.length_map, cached]

/-- **Every document is fetched once.** After any requests to a source that keeps documents, whatever is behind it: a
location that was not supplied yet is asked for behind it, once, and gets the answer that is given there at that time; a
location that was supplied gets the first document it was supplied with, and nothing changes. So the source behind has had
the requests up to and including the first success of each location and no others, and as many documents are kept as
locations were supplied. -/
theorem fetches_once (r : Retriever σ) (inner : σ) (requests : List String) :
    let c := (retriever r).after (start inner) requests
    let h := (retriever r).history (start inner) requests
    (∀ uri, match h.firstSupplied uri with
      | none => (retriever r c uri).1 = (r c.inner uri).1 ∧ (retriever r c uri).2.inner = (r c.inner uri).2
      | some document => retriever r c uri = (.ok document, c)) ∧
    c.inner = r.after inner h.passedOn ∧ c.cached = h.supplied.toFinset.card := by
  intro c h
  have hc : Keeps r inner c h := keeps_after r inner requests
  refine ⟨fun uri => ?_, hc.inner, hc.cached_eq⟩
  cases hfirst : h.firstSupplied uri with
  | none =>
    dsimp only
    rw [retriever_of_missing ((hc.lookup uri).trans hfirst)]
    exact ⟨rfl, rfl⟩
  | some document => exact retriever_of_kept ((hc.lookup uri).trans hfirst)

/-- A source that is down at first and supplies another document each time after that: of four requests for two
locations three are passed on, and two documents are kept. -/
example :
    let r : Retriever Nat := fun n _ => (if n = 0 then .error (.unknownLocation "a") else .ok (.integer n), n + 1)
    let c := (retriever r).after (start 0) ["a", "a", "b", "a"]
    (c.inner, c.documents.lookup "a", c.cached) = (3, some (.integer 1), 2) := by
  rfl

end Caching

end JsonSchema
