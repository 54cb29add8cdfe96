/-
  DataAccess.Cache — an in-memory cache whose values expire.

  A value may be kept for a number of seconds, and from the moment on at
  which they are over it reads as missing.  What has expired is swept out
  when another value is set, and when it is asked for.  The time is given
  with each request; the clock ends, and a value that would expire after its
  end cannot be kept.

  Main statement:
    * `get_set`         — a value that is set reads back while it is live.
-/
import DataAccess.Assoc
import DataAccess.StoreError

namespace DataAccess

/-- A value in a cache. -/
structure CacheEntry where
  value : String
  /-- The second from which on the value is missing; none if it stays. -/
  expiresAt : Option Nat
  deriving Repr, DecidableEq

/-- The value has not expired. -/
def CacheEntry.isLive (e : CacheEntry) (now : Nat) : Bool :=
  match e.expiresAt with
  | some t => decide (now < t)
  | none => true

/-- An in-memory cache. -/
structure Cache where
  entries : Assoc String CacheEntry
  unavailable : Bool
  deriving DecidableEq

namespace Cache

/-- A cache without values. -/
def empty : Cache := ⟨[], false⟩

/-- The last second of the clock. -/
def lastSecond : Nat := Int64.maxValue.toInt.toNat

/-- Refuses a request if the cache is unavailable or the key is empty. -/
def ready (c : Cache) (key : String) : Except StoreError Unit :=
  if c.unavailable then .error (.connection "cache unavailable") else checkKey key

/-- Keeps a value, for some seconds if they are given, and sweeps out what
has expired; none if the clock ends before the value expires. -/
def set (c : Cache) (now : Nat) (key value : String) (ttl : Option Nat) :
    Except StoreError (Option Cache) := do
  c.ready key
  let expiresAt := ttl.map (now + ·)
  if expiresAt.any (lastSecond < ·) then return none
  return some { c with
    entries := Assoc.insert (c.entries.filter fun e => e.2.isLive now) key ⟨value, expiresAt⟩ }

/-- The value of a key, which is taken out if it has expired. -/
def get (c : Cache) (now : Nat) (key : String) : Except StoreError (Option String × Cache) := do
  c.ready key
  match Assoc.find? c.entries key with
  | some e =>
      if e.isLive now then return (some e.value, c)
      else return (none, { c with entries := Assoc.erase c.entries key })
  | none => return (none, c)

/-- The key has a value, which is taken out if it has expired. -/
def exists? (c : Cache) (now : Nat) (key : String) : Except StoreError (Bool × Cache) := do
  let (value, c) ← c.get now key
  return (value.isSome, c)

/-- Takes a value out. -/
def delete (c : Cache) (key : String) : Except StoreError Cache := do
  c.ready key
  return { c with entries := Assoc.erase c.entries key }

/-- The number of values, those included that have expired but were not
swept out yet. -/
def size (c : Cache) : Nat := c.entries.length

/-! ## Laws. -/

/-- A value that is set reads back, at any time at which it is live. -/
theorem get_set {c d : Cache} {now later : Nat} {key value : String} {ttl : Option Nat}
    (h : c.set now key value ttl = .ok (some d))
    (hlive : (CacheEntry.mk value (ttl.map (now + ·))).isLive later = true) :
    d.get later key = .ok (some value, d) := by
  unfold set at h
  cases hr : c.ready key with
  | error e => simp [hr] at h
  | ok u =>
    simp only [hr, ok_bind, pure_eq_ok] at h
    split at h
    · simp at h
    · simp only [Except.ok.injEq, Option.some.injEq] at h
      subst h
      have hd : ∀ entries, Cache.ready { c with entries := entries } key = .ok u := fun _ => hr
      simp [get, hd, hlive]

end Cache

end DataAccess
