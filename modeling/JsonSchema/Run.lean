import JsonSchema.Fault

/-!
# Runs

An evaluation ends with a value or a fault, and on its way it may ask for documents. Which documents were
asked for is part of its result, because a retriever may count or remember them. What it answers is fixed
while an evaluation runs.

## What is here

* `Run` — the outcome and the locations that were requested, in order.
* `Run.outcome_bind` — **outcomes compose as in `Except`**: what was requested has no influence on them.
-/

set_option autoImplicit false

namespace JsonSchema

/-- The end of an evaluation, and the locations of the documents it asked for. -/
structure Run (α : Type) where
  outcome : Except Fault α
  requests : List String

namespace Run

variable {α β : Type}

/-- Ends with a fault. -/
def fail (f : Fault) : Run α := ⟨.error f, []⟩

/-- Ends as an outcome that needed no document. -/
def ofExcept (x : Except Fault α) : Run α := ⟨x, []⟩

/-- Ends as an outcome for which a document was requested. -/
def requesting (location : String) (x : Except Fault α) : Run α := ⟨x, [location]⟩

instance : Monad Run where
  pure a := ⟨.ok a, []⟩
  bind x f :=
    match x.outcome with
    | .ok a => ⟨(f a).outcome, x.requests ++ (f a).requests⟩
    | .error e => ⟨.error e, x.requests⟩

@[simp] theorem outcome_pure (a : α) : (pure a : Run α).outcome = .ok a := rfl

@[simp] theorem outcome_fail (f : Fault) : (fail f : Run α).outcome = .error f := rfl

@[simp] theorem outcome_ofExcept (x : Except Fault α) : (ofExcept x).outcome = x := rfl

@[simp] theorem outcome_requesting (location : String) (x : Except Fault α) :
    (requesting location x).outcome = x := rfl

/-- Outcomes compose as in `Except`. -/
@[simp] theorem outcome_bind (x : Run α) (f : α → Run β) :
    (x >>= f).outcome = x.outcome >>= fun a => (f a).outcome := by
  obtain ⟨outcome, requests⟩ := x
  cases outcome <;> rfl

instance : LawfulMonad Run := LawfulMonad.mk' Run
  (fun x => by
    obtain ⟨outcome, requests⟩ := x
    cases outcome <;> simp [Functor.map])
  (fun a f => by simp [bind, pure])
  (fun x f g => by
    obtain ⟨outcome, requests⟩ := x
    cases outcome with
    | error e => rfl
    | ok a =>
      simp only [bind]
      cases (f a).outcome <;> simp [List.append_assoc])

end Run

end JsonSchema
