/-
  DataAccess.Relational.Session — a store with transactions open by name.

  Any number of transactions may be open at once, in any interleaving.  There
  are two kinds of them, with names of their own: bare transactions are gone
  once they are committed or rolled back, while guarded ones stay until they
  are dropped and know where they stand.  Opening a transaction under a name
  that is taken drops the one that has it.
-/
import DataAccess.Relational.Transaction

namespace DataAccess

/-- A store with its open transactions. -/
structure Session where
  store : RelationalStore
  bare : Assoc String Connection
  guarded : Assoc String Transaction

/-- Why a call of a session fails. -/
inductive SessionError where
  /-- No transaction is open under the name. -/
  | noHandle
  | store (e : RelationalError)
  /-- The call panicked. -/
  | panicked
  deriving DecidableEq

namespace Session

/-- An empty store without transactions. -/
def empty : Session := ⟨.empty, [], []⟩

/-! ## §1. Bare transactions. -/

/-- Opens a bare transaction. -/
def begin (s : Session) (name : String) : Except SessionError Session :=
  match s.store.begin with
  | .error e => .error (.store e)
  | .ok c =>
      let store := match Assoc.find? s.bare name with
        | some old => s.store.drop old
        | none => s.store
      .ok { s with store, bare := Assoc.insert s.bare name c }

/-- Asks a bare transaction for a change. -/
def write (s : Session) (name table key : String) (w : Write) : Except SessionError Session :=
  match Assoc.find? s.bare name with
  | none => .error .noHandle
  | some c =>
      match c.write s.store table key w with
      | .ok c => .ok { s with bare := Assoc.insert s.bare name c }
      | .error e => .error (.store e)

/-- Ends a bare transaction in one of the ways there are. -/
def finish (s : Session) (name : String)
    (finishing : Connection → Except RelationalError Unit × RelationalStore) :
    Except SessionError Unit × Session :=
  match Assoc.find? s.bare name with
  | none => (.error .noHandle, s)
  | some c =>
      let (r, store) := finishing c
      (r.mapError .store, { s with store, bare := Assoc.erase s.bare name })

/-- Commits a bare transaction. -/
def commit (s : Session) (name : String) : Except SessionError Unit × Session :=
  s.finish name s.store.commit

/-- Rolls a bare transaction back. -/
def rollback (s : Session) (name : String) : Except SessionError Unit × Session :=
  s.finish name s.store.rollback

/-- Drops a bare transaction. -/
def drop (s : Session) (name : String) : Except SessionError Unit × Session :=
  s.finish name fun c => (.ok (), s.store.drop c)

/-! ## §2. Guarded transactions. -/

/-- Opens a guarded transaction. -/
def beginGuarded (s : Session) (name : String) :
    Except SessionError Unit × List LogLine × Session :=
  match Transaction.begin s.store with
  | .error e => (.error (.store e), [], s)
  | .ok t =>
      let (lines, store) := match Assoc.find? s.guarded name with
        | some old => old.drop s.store
        | none => ([], s.store)
      (.ok (), lines, { s with store, guarded := Assoc.insert s.guarded name t })

/-- Asks a guarded transaction for something; the answer tells where it
stands then. -/
def ask (s : Session) (name : String)
    (asking : Transaction → Except RelationalError Unit × Transaction × RelationalStore) :
    Option (Except RelationalError Unit × TransactionState × Session) :=
  match Assoc.find? s.guarded name with
  | none => none
  | some t =>
      let (r, t, store) := asking t
      some (r, t.state, { s with store, guarded := Assoc.insert s.guarded name t })

/-- Asks a guarded transaction for a change. -/
def writeGuarded (s : Session) (name table key : String) (w : Write) :
    Option (Except RelationalError Unit × TransactionState × Session) :=
  s.ask name fun t =>
    match t.apply s.store table key w with
    | .ok t => (.ok (), t, s.store)
    | .error e => (.error e, t, s.store)

/-- Commits a guarded transaction. -/
def commitGuarded (s : Session) (name : String) :
    Option (Except RelationalError Unit × TransactionState × Session) :=
  s.ask name fun t => t.commit s.store

/-- Rolls a guarded transaction back. -/
def rollbackGuarded (s : Session) (name : String) :
    Option (Except RelationalError Unit × TransactionState × Session) :=
  s.ask name fun t => t.rollback s.store

/-- Drops a guarded transaction. -/
def dropGuarded (s : Session) (name : String) : Option (List LogLine × Session) :=
  match Assoc.find? s.guarded name with
  | none => none
  | some t =>
      let (lines, store) := t.drop s.store
      some (lines, { s with store, guarded := Assoc.erase s.guarded name })

end Session

end DataAccess
