import Mathlib.Tactic.Common

namespace Passwd

/-!
# Transactions

A transaction works on a copy of what is committed.  Committing installs the
copy, rolling back drops it; a transaction whose rollback is deferred therefore
takes effect as a whole or not at all, wherever one of its statements fails.
-/

variable {Data Error : Type}

/-- A database: what is committed, and the copy of an open transaction. -/
structure Database (Data : Type) where
  committed : Data
  working : Option Data

/-- A statement rewrites the data it is given, and may report an error. -/
abbrev Statement (Data Error : Type) := Data → Except Error Unit × Data

/-- Statements one after another, up to the first that reports an error. -/
def execAll :
    List (Statement Data Error) → Data → Except Error Unit × Data
  | [], data => (.ok (), data)
  | statement :: rest, data =>
      match statement data with
      | (.error e, after) => (.error e, after)
      | (.ok (), after) => execAll rest after

namespace Database

variable (db : Database Data)

/-- Open a transaction. -/
def beginTx : Database Data :=
  { db with working := some db.committed }

/-- Run statements in the open transaction. -/
def exec (statements : List (Statement Data Error)) :
    Except Error Unit × Database Data :=
  match db.working with
  | none => (.ok (), db)
  | some data =>
      ((execAll statements data).1,
        { db with working := some (execAll statements data).2 })

/-- Install the copy of the open transaction. -/
def commit : Database Data :=
  match db.working with
  | none => db
  | some data => { committed := data, working := none }

/-- Drop the copy of the open transaction, if there is one. -/
def rollback : Database Data :=
  { db with working := none }

/-- A transaction with a deferred rollback; opening and committing may fail. -/
def transaction
    (opens commits : Except Error Unit)
    (statements : List (Statement Data Error)) :
    Except Error Unit × Database Data :=
  match opens with
  | .error e => (.error e, db)
  | .ok () =>
      match db.beginTx.exec statements with
      | (.error e, after) => (.error e, after.rollback)
      | (.ok (), after) =>
          match commits with
          | .error e => (.error e, after.rollback)
          | .ok () => (.ok (), after.commit.rollback)

variable {db : Database Data}

/-- The statements of a transaction change its copy alone. -/
theorem exec_beginTx (statements : List (Statement Data Error)) :
    db.beginTx.exec statements =
      ((execAll statements db.committed).1,
        { committed := db.committed
          working := some (execAll statements db.committed).2 }) :=
  rfl

/-- A transaction fails and changes nothing, or commits all its statements. -/
theorem transaction_cases
    (idle : db.working = none)
    (opens commits : Except Error Unit)
    (statements : List (Statement Data Error)) :
    (∃ e, db.transaction opens commits statements = (.error e, db) ∧
        (opens = .error e ∨ (execAll statements db.committed).1 = .error e ∨
          commits = .error e)) ∨
      (opens = .ok () ∧ commits = .ok () ∧
        ∃ data, execAll statements db.committed = (.ok (), data) ∧
          db.transaction opens commits statements =
            (.ok (), { committed := data, working := none })) := by
  rcases db with ⟨committed, working⟩
  cases idle
  unfold transaction
  rw [exec_beginTx]
  cases opens with
  | error e => exact Or.inl ⟨e, rfl, Or.inl rfl⟩
  | ok _ =>
      rcases ran : execAll statements committed with ⟨result, data⟩
      cases result with
      | error e => exact Or.inl ⟨e, rfl, Or.inr (Or.inl rfl)⟩
      | ok _ =>
          cases commits with
          | error e => exact Or.inl ⟨e, rfl, Or.inr (Or.inr rfl)⟩
          | ok _ => exact Or.inr ⟨rfl, rfl, data, rfl, rfl⟩

end Database

end Passwd
