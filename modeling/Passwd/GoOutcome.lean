namespace Passwd.Server

/-!
# What a call comes to

A call of the server's language returns a result, returns an error, or panics.
A panic ends the calls around it, up to the one that serves the request.
-/

/-- An error: one that the source makes, with its text, or one of a library. -/
inductive Failure where
  | text (message : String)
  | library
deriving Repr, DecidableEq

/-- What a call comes to. -/
inductive Outcome (Result : Type) where
  | returned (result : Result)
  | failed (error : Failure)
  | panicked
deriving Repr, DecidableEq

namespace Outcome

variable {First Second : Type}

/-- Go on with the result, as `if err != nil` and a panic do not. -/
def andThen
    (first : Outcome First)
    (next : First → Outcome Second) : Outcome Second :=
  match first with
  | .returned result => next result
  | .failed error => .failed error
  | .panicked => .panicked

instance : Monad Outcome where
  pure := .returned
  bind := andThen

/-- The result of a library function that can fail. -/
def ofOption : Option First → Outcome First
  | some result => .returned result
  | none => .failed .library

/-- The result, if there is one. -/
def result : Outcome First → Option First
  | .returned result => some result
  | _ => none

@[simp] theorem pure_eq (result : First) :
    (pure result : Outcome First) = .returned result :=
  rfl

@[simp] theorem returned_bind
    (result : First)
    (next : First → Outcome Second) :
    (Outcome.returned result >>= next) = next result :=
  rfl

@[simp] theorem failed_bind
    (error : Failure)
    (next : First → Outcome Second) :
    (Outcome.failed error >>= next) = .failed error :=
  rfl

@[simp] theorem panicked_bind (next : First → Outcome Second) :
    (Outcome.panicked >>= next) = .panicked :=
  rfl

@[simp] theorem ofOption_some (result : First) :
    ofOption (some result) = .returned result :=
  rfl

@[simp] theorem ofOption_none :
    ofOption (none : Option First) = .failed .library :=
  rfl

/-- Two steps panic if the first does, or returns and the second does. -/
theorem bind_eq_panicked
    (first : Outcome First)
    (next : First → Outcome Second) :
    (first >>= next) = .panicked ↔
      first = .panicked ∨
        ∃ result, first = .returned result ∧ next result = .panicked := by
  cases first with
  | returned result =>
      simp
  | failed error =>
      simp
  | panicked =>
      simp

/-- A library function that can fail does not panic. -/
theorem ofOption_ne_panicked (read : Option First) :
    ofOption read ≠ .panicked := by
  cases read with
  | none =>
      simp
  | some result =>
      simp

/-- A library function that can fail returns what it has. -/
theorem ofOption_eq_returned
    (read : Option First)
    (result : First) :
    ofOption read = .returned result ↔ read = some result := by
  cases read with
  | none =>
      simp
  | some first =>
      simp

end Outcome

end Passwd.Server
