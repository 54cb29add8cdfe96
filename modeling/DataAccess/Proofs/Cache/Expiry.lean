/-
  DataAccess.Proofs.Cache.Expiry — a cache is a map whose values expire.

  A cache throws values out in three ways: a value that is set takes the
  place of the one before it and sweeps out whatever has expired, and a value
  that is asked for is taken out if it has expired.  Time only moves forward,
  so what has expired stays so, and none of this can be told from outside.
  What a key has is read off the past alone:

      the last call that set or deleted it with success,
      if that set a value which has not expired since.

  Main statements:
    * `get_of_ready`, `eq_of_set` — what the two requests do that throw values
                                out;
    * `call_of_ready`, `call_cases` — what a call answers, and what it can do;
    * `shown_call`            — so what one call does to the value of a key;
    * `mirrors_of`            — so a cache shows what its past tells;
    * `answers_eq_of_agrees`  — and what has expired makes no difference to it;
    * `run_reads_last_set`    — all that is known of a cache after any calls.
-/
import DataAccess.Cache

namespace DataAccess

/-! ## §1. Values that expire. -/

namespace CacheEntry

/-- A value that is live was so before. -/
theorem isLive_of_le {e : CacheEntry} {now later : Nat} (hle : now ≤ later)
    (h : e.isLive later = true) : e.isLive now = true := by
  unfold isLive at h ⊢
  cases hexpires : e.expiresAt with
  | none => rfl
  | some t =>
    rw [hexpires] at h
    have hlt : later < t := of_decide_eq_true h
    exact decide_eq_true (show now < t by omega)

/-- What is live later is among what is live now. -/
theorem filter_isLive {now later : Nat} (hle : now ≤ later) (x : Option CacheEntry) :
    (x.filter (·.isLive now)).filter (·.isLive later) = x.filter (·.isLive later) := by
  cases x with
  | none => rfl
  | some e =>
    rw [Option.filter_some, Option.filter_some]
    by_cases h : e.isLive now = true
    · rw [if_pos h, Option.filter_some]
    · have hlater : ¬ e.isLive later = true := fun hl => h (isLive_of_le hle hl)
      rw [if_neg h, if_neg hlater]
      rfl

/-- A value is live as long as its time has not elapsed, for ever if it has
none. -/
theorem isLive_iff {value : String} {ttl : Option Nat} {start now : Nat} :
    (CacheEntry.mk value (ttl.map (start + ·))).isLive now = true
      ↔ ∀ seconds, ttl = some seconds → now < start + seconds := by
  unfold isLive
  cases ttl with
  | none => simp
  | some seconds => simp

end CacheEntry

/-! ## §2. Requests. -/

namespace Cache

variable {c d : Cache} {now later : Nat} {key value : String} {ttl : Option Nat}

/-- The cache with a value put in, nothing being swept out. -/
def put (c : Cache) (key : String) (e : CacheEntry) : Cache :=
  { c with entries := Assoc.insert c.entries key e }

/-- The cache without the value of a key. -/
def without (c : Cache) (key : String) : Cache := { c with entries := Assoc.erase c.entries key }

/-- The cache without what has expired. -/
def swept (c : Cache) (now : Nat) : Cache :=
  { c with entries := c.entries.filter fun e => e.2.isLive now }

/-- A request with a key is refused: the cache is unavailable, or else the key
is empty. -/
def Refuses (c : Cache) (key : String) (e : StoreError) : Prop :=
  c.unavailable = true ∧ e = .connection "cache unavailable"
    ∨ c.unavailable = false ∧ key = "" ∧ e = .invalidKey ""

theorem ready_ok_iff : c.ready key = .ok () ↔ c.unavailable = false ∧ key ≠ "" := by
  unfold ready
  cases c.unavailable with
  | true => simp
  | false => simp

theorem ready_error_iff {e : StoreError} : c.ready key = .error e ↔ c.Refuses key e := by
  unfold ready Refuses
  cases c.unavailable with
  | true =>
    have hflip : StoreError.connection "cache unavailable" = e
        ↔ e = .connection "cache unavailable" := eq_comm
    simp [hflip]
  | false =>
    by_cases hkey : key = ""
    · subst hkey
      have hflip : StoreError.invalidKey "" = e ↔ e = .invalidKey "" := eq_comm
      simp [checkKey, hflip]
    · simp [checkKey, hkey]

/-- Whether a request is refused is up to the cache being available. -/
theorem ready_congr (h : c.unavailable = d.unavailable) (key : String) :
    c.ready key = d.ready key := by
  unfold ready
  rw [h]

/-- The live value of a key, none if it has expired. -/
def shown (c : Cache) (now : Nat) (key : String) : Option CacheEntry :=
  (Assoc.find? c.entries key).filter (·.isLive now)

/-- **A value that is asked for** is the live one; it is taken out if it has
expired, and nothing else is. -/
theorem get_of_ready (h : c.ready key = .ok ()) (now : Nat) :
    ∃ d, c.get now key = .ok ((c.shown now key).map (·.value), d)
      ∧ (d = c ∨ c.shown now key = none ∧ d = c.without key) := by
  unfold get shown
  rw [h]
  cases hfind : Assoc.find? c.entries key with
  | none => exact ⟨c, rfl, .inl rfl⟩
  | some e =>
    rw [Option.filter_some]
    by_cases hlive : e.isLive now = true
    · refine ⟨c, ?_, .inl rfl⟩
      rw [if_pos hlive]
      simp [hlive]
    · refine ⟨c.without key, ?_, .inr ⟨if_neg hlive, rfl⟩⟩
      rw [if_neg hlive]
      simp [hlive, without]

theorem get_of_error {e : StoreError} (h : c.ready key = .error e) (now : Nat) :
    c.get now key = .error e := by
  unfold get
  rw [h]
  rfl

/-- A key is there if it has a value. -/
theorem exists?_eq (c : Cache) (now : Nat) (key : String) :
    c.exists? now key = (c.get now key).map fun r => (r.1.isSome, r.2) := by
  unfold exists?
  cases c.get now key <;> rfl

/-- The clock ends before a value expires that is set now. -/
def ClockEnds (now : Nat) (ttl : Option Nat) : Prop :=
  (ttl.map (now + ·)).any (lastSecond < ·) = true

instance (now : Nat) (ttl : Option Nat) : Decidable (ClockEnds now ttl) :=
  inferInstanceAs (Decidable (_ = true))

/-- **A value that is set** is put in place of the one before it, what has
expired having been swept out. -/
theorem set_eq (c : Cache) (now : Nat) (key value : String) (ttl : Option Nat) :
    c.set now key value ttl = (c.ready key).map fun _ =>
      if ClockEnds now ttl then none
      else some ((c.swept now).put key ⟨value, ttl.map (now + ·)⟩) := by
  unfold set
  cases c.ready key with
  | error e => rfl
  | ok u =>
    show (if ClockEnds now ttl then (pure none : Except StoreError (Option Cache)) else _) = _
    simp only [map_ok]
    split <;> rfl

theorem delete_eq (c : Cache) (key : String) :
    c.delete key = (c.ready key).map fun _ => c.without key := by
  unfold delete
  cases c.ready key <;> rfl

/-- What a value that is set with success leaves behind. -/
theorem eq_of_set (h : c.set now key value ttl = .ok (some d)) :
    d = (c.swept now).put key ⟨value, ttl.map (now + ·)⟩ := by
  rw [set_eq] at h
  cases hready : c.ready key with
  | error e =>
    rw [hready] at h
    cases h
  | ok u =>
    rw [hready] at h
    have hkept := Except.ok.inj h
    split at hkept
    · cases hkept
    · exact (Option.some.inj hkept).symm

/-- After a value is set, every other one that is stored is live. -/
theorem isLive_of_set (h : c.set now key value ttl = .ok (some d)) {e : String × CacheEntry}
    (he : e ∈ d.entries) (hne : e.1 ≠ key) : e.2.isLive now = true := by
  obtain rfl := eq_of_set h
  rcases Assoc.mem_insert he with hnew | hold
  · rw [hnew] at hne
    exact absurd rfl hne
  · exact (List.mem_filter.mp hold).2

theorem shown_put (c : Cache) (key other : String) (e : CacheEntry) (now : Nat) :
    (c.put key e).shown now other
      = if key = other then (some e).filter (·.isLive now) else c.shown now other := by
  unfold shown put
  simp only [Assoc.find?_insert]
  split <;> rfl

theorem shown_without (c : Cache) (key other : String) (now : Nat) :
    (c.without key).shown now other = if key = other then none else c.shown now other := by
  unfold shown without
  simp only [Assoc.find?_erase]
  split <;> rfl

/-- What is swept out would not be shown any more. -/
theorem shown_swept (hkeys : (Assoc.keys c.entries).Nodup) (hle : now ≤ later) (key : String) :
    (c.swept now).shown later key = c.shown later key := by
  unfold shown swept
  rw [Assoc.find?_filter_values hkeys fun e => e.isLive now, CacheEntry.filter_isLive hle]

/-- What is not shown now is not shown later. -/
theorem shown_of_le (h : c.shown now key = none) (hle : now ≤ later) :
    c.shown later key = none := by
  unfold shown at h ⊢
  rw [← CacheEntry.filter_isLive hle, h]
  rfl

end Cache

/-! ## §3. Calls. -/

/-- A call on a cache. -/
inductive CacheCall where
  | set (key value : String) (ttl : Option Nat)
  | get (key : String)
  | delete (key : String)
  | has (key : String)
  | setUnavailable (unavailable : Bool)

/-- What a call on a cache answers. -/
inductive CacheAnswer where
  | done
  | value (v : Option String)
  | truth (b : Bool)
  | refused (e : StoreError)
  /-- The clock ends before the value expires. -/
  | clockEnds

/-- The key that a call is about. -/
def CacheCall.key? : CacheCall → Option String
  | set key _ _ => some key
  | get key => some key
  | delete key => some key
  | has key => some key
  | setUnavailable _ => none

/-- Whether the cache is unavailable after a call. -/
def CacheCall.outage (x : CacheCall) (before : Bool) : Bool :=
  match x with
  | setUnavailable b => b
  | _ => before

/-- A call that was made, with its time and its answer. -/
structure CacheEvent where
  time : Nat
  call : CacheCall
  answer : CacheAnswer

namespace CacheEvent

/-- The event sets or deletes the key with success. -/
def changes (key : String) : CacheEvent → Bool
  | ⟨_, .set k _ _, .done⟩ => k = key
  | ⟨_, .delete k, .done⟩ => k = key
  | _ => false

/-- What a change leaves under its key. -/
def left? : CacheEvent → Option CacheEntry
  | ⟨time, .set _ value ttl, _⟩ => some ⟨value, ttl.map (time + ·)⟩
  | _ => none

end CacheEvent

/-- The last change of a key in the past, whose last event comes first. -/
def lastChange (key : String) (past : List CacheEvent) : Option CacheEvent :=
  past.find? (·.changes key)

namespace Cache

/-- Makes one call.  The cache changes only if it succeeds. -/
def call (c : Cache) (now : Nat) : CacheCall → CacheAnswer × Cache
  | .set key value ttl =>
      match c.set now key value ttl with
      | .ok (some d) => (.done, d)
      | .ok none => (.clockEnds, c)
      | .error e => (.refused e, c)
  | .get key =>
      match c.get now key with
      | .ok (v, d) => (.value v, d)
      | .error e => (.refused e, c)
  | .delete key =>
      match c.delete key with
      | .ok d => (.done, d)
      | .error e => (.refused e, c)
  | .has key =>
      match c.exists? now key with
      | .ok (b, d) => (.truth b, d)
      | .error e => (.refused e, c)
  | .setUnavailable b => (.done, { c with unavailable := b })

/-- The event of a call. -/
def event (c : Cache) (now : Nat) (x : CacheCall) : CacheEvent := ⟨now, x, (c.call now x).1⟩

/-- What is answered to a call that is not refused, given the live value of its
key. -/
def granted (now : Nat) (shown : Option CacheEntry) : CacheCall → CacheAnswer
  | .set _ _ ttl => if ClockEnds now ttl then .clockEnds else .done
  | .get _ => .value (shown.map (·.value))
  | .delete _ => .done
  | .has _ => .truth shown.isSome
  | .setUnavailable _ => .done

variable {c d : Cache} {now later : Nat}

/-- A call with a key that is refused says why and changes nothing. -/
theorem call_of_error {x : CacheCall} {key : String} {e : StoreError} (hkey : x.key? = some key)
    (h : c.ready key = .error e) (now : Nat) : c.call now x = (.refused e, c) := by
  cases x with
  | set k value ttl =>
    cases hkey
    simp only [call, set_eq, h, map_error]
  | get k =>
    cases hkey
    simp only [call, get_of_error h]
  | delete k =>
    cases hkey
    simp only [call, delete_eq, h, map_error]
  | has k =>
    cases hkey
    simp only [call, exists?_eq, get_of_error h, map_error]
  | setUnavailable b => cases hkey

theorem call_set_of_ready {key : String} (h : c.ready key = .ok ()) (now : Nat) (value : String)
    (ttl : Option Nat) :
    c.call now (.set key value ttl) = if ClockEnds now ttl then (.clockEnds, c)
      else (.done, (c.swept now).put key ⟨value, ttl.map (now + ·)⟩) := by
  simp only [call, set_eq, h, map_ok]
  by_cases hclock : ClockEnds now ttl
  · simp only [if_pos hclock]
  · simp only [if_neg hclock]

theorem call_delete_of_ready {key : String} (h : c.ready key = .ok ()) (now : Nat) :
    c.call now (.delete key) = (.done, c.without key) := by
  simp only [call, delete_eq, h, map_ok]

/-- To ask for a value and to ask whether there is one comes to the same. -/
theorem call_look_of_ready {key : String} (h : c.ready key = .ok ()) (now : Nat) :
    ∃ d, c.call now (.get key) = (.value ((c.shown now key).map (·.value)), d)
      ∧ c.call now (.has key) = (.truth (c.shown now key).isSome, d)
      ∧ (d = c ∨ c.shown now key = none ∧ d = c.without key) := by
  obtain ⟨d, hget, hd⟩ := get_of_ready h now
  refine ⟨d, ?_, ?_, hd⟩
  · simp only [call, hget]
  · simp only [call, exists?_eq, hget, map_ok, Option.isSome_map]

theorem call_of_ready {x : CacheCall} {key : String} (hkey : x.key? = some key)
    (h : c.ready key = .ok ()) (now : Nat) :
    (c.call now x).1 = granted now (c.shown now key) x := by
  cases x with
  | set k value ttl =>
    cases hkey
    rw [call_set_of_ready h, granted]
    split <;> rfl
  | get k =>
    cases hkey
    obtain ⟨d, hcall, -⟩ := call_look_of_ready h now
    rw [hcall, granted]
  | delete k =>
    cases hkey
    rw [call_delete_of_ready h, granted]
  | has k =>
    cases hkey
    obtain ⟨d, -, hcall, -⟩ := call_look_of_ready h now
    rw [hcall, granted]
  | setUnavailable b => cases hkey

theorem granted_ne_refused (now : Nat) (shown : Option CacheEntry) (x : CacheCall)
    (e : StoreError) : granted now shown x ≠ .refused e := by
  cases x with
  | set k value ttl =>
    rw [granted]
    split <;> exact fun h => nomatch h
  | _ => exact fun h => nomatch h

/-- What a call leaves behind that neither sets nor deletes a value: at most it
takes one out that has expired. -/
def LeavesValues (c : Cache) (now : Nat) (x : CacheCall) (d : Cache) : Prop :=
  d = { c with unavailable := x.outage c.unavailable }
    ∨ ∃ k, (x = .get k ∨ x = .has k) ∧ c.shown now k = none ∧ d = c.without k

/-- **What one call can do**: it sets or deletes a value with success, or it
changes none. -/
theorem call_cases (c : Cache) (now : Nat) (x : CacheCall) :
    (∃ k value ttl, x = .set k value ttl
        ∧ c.call now x = (.done, (c.swept now).put k ⟨value, ttl.map (now + ·)⟩))
      ∨ (∃ k, x = .delete k ∧ c.call now x = (.done, c.without k))
      ∨ (∀ key, (c.event now x).changes key = false) ∧ c.LeavesValues now x (c.call now x).2 := by
  -- a call that is refused changes nothing, whatever it is
  have hrefused : ∀ {key : String} {e : StoreError}, x.key? = some key → c.ready key = .error e →
      (∀ key, (c.event now x).changes key = false) ∧ c.LeavesValues now x (c.call now x).2 := by
    intro key e hkey hready
    unfold event
    rw [call_of_error hkey hready]
    cases x with
    | setUnavailable b => cases hkey
    | _ => exact ⟨fun _ => rfl, .inl rfl⟩
  cases x with
  | set k value ttl =>
    cases hready : c.ready k with
    | error e => exact .inr (.inr (hrefused rfl hready))
    | ok u =>
      have hcall := call_set_of_ready hready now value ttl
      by_cases hclock : ClockEnds now ttl
      · rw [if_pos hclock] at hcall
        unfold event
        rw [hcall]
        exact .inr (.inr ⟨fun _ => rfl, .inl rfl⟩)
      · rw [if_neg hclock] at hcall
        exact .inl ⟨k, value, ttl, rfl, hcall⟩
  | get k =>
    cases hready : c.ready k with
    | error e => exact .inr (.inr (hrefused rfl hready))
    | ok u =>
      obtain ⟨d, hcall, -, hd⟩ := call_look_of_ready hready now
      refine .inr (.inr ⟨fun _ => rfl, ?_⟩)
      rw [hcall]
      exact hd.imp_right fun h => ⟨k, .inl rfl, h⟩
  | delete k =>
    cases hready : c.ready k with
    | error e => exact .inr (.inr (hrefused rfl hready))
    | ok u => exact .inr (.inl ⟨k, rfl, call_delete_of_ready hready now⟩)
  | has k =>
    cases hready : c.ready k with
    | error e => exact .inr (.inr (hrefused rfl hready))
    | ok u =>
      obtain ⟨d, -, hcall, hd⟩ := call_look_of_ready hready now
      refine .inr (.inr ⟨fun _ => rfl, ?_⟩)
      rw [hcall]
      exact hd.imp_right fun h => ⟨k, .inr rfl, h⟩
  | setUnavailable b => exact .inr (.inr ⟨fun _ => rfl, .inl rfl⟩)

/-- **What one call does to the value of a key**: a change leaves what it says,
and no other call makes a difference to what is shown from then on. -/
theorem shown_call (hkeys : (Assoc.keys c.entries).Nodup) (hle : now ≤ later) (x : CacheCall)
    (key : String) :
    (c.call now x).2.shown later key
      = if (c.event now x).changes key = true then (c.event now x).left?.filter (·.isLive later)
        else c.shown later key := by
  rcases call_cases c now x with ⟨k, value, ttl, rfl, hcall⟩ | ⟨k, rfl, hcall⟩ | ⟨hno, hstate⟩
  · unfold event
    rw [hcall, shown_put, shown_swept hkeys hle]
    simp only [CacheEvent.changes, CacheEvent.left?, decide_eq_true_eq]
  · unfold event
    rw [hcall, shown_without]
    simp only [CacheEvent.changes, CacheEvent.left?, decide_eq_true_eq]
    rfl
  · rw [if_neg (by rw [hno]; exact Bool.false_ne_true)]
    rcases hstate with hd | ⟨k, -, hgone, hd⟩
    · rw [hd]
      rfl
    · rw [hd, shown_without]
      by_cases hk : k = key
      · -- the value that is taken out has expired, and stays so
        rw [if_pos hk, ← hk, shown_of_le hgone hle]
      · rw [if_neg hk]

/-- No call makes a second entry for a key. -/
theorem nodup_call (hkeys : (Assoc.keys c.entries).Nodup) (now : Nat) (x : CacheCall) :
    (Assoc.keys (c.call now x).2.entries).Nodup := by
  rcases call_cases c now x with ⟨k, value, ttl, rfl, hcall⟩ | ⟨k, rfl, hcall⟩ | ⟨-, hstate⟩
  · rw [hcall]
    exact Assoc.nodup_keys_insert (Assoc.nodup_keys_filter hkeys _) k _
  · rw [hcall]
    exact Assoc.nodup_keys_erase hkeys k
  · rcases hstate with hd | ⟨k, -, -, hd⟩
    · rw [hd]
      exact hkeys
    · rw [hd]
      exact Assoc.nodup_keys_erase hkeys k

theorem unavailable_call (c : Cache) (now : Nat) (x : CacheCall) :
    (c.call now x).2.unavailable = x.outage c.unavailable := by
  rcases call_cases c now x with ⟨k, value, ttl, rfl, hcall⟩ | ⟨k, rfl, hcall⟩ | ⟨-, hstate⟩
  · rw [hcall]
    rfl
  · rw [hcall]
    rfl
  · rcases hstate with hd | ⟨k, hx, -, hd⟩
    · rw [hd]
    · rw [hd]
      rcases hx with rfl | rfl <;> rfl

/-- **A call is refused** if its cache is unavailable or else its key is
empty, and then nothing changes. -/
theorem call_refused_iff (c : Cache) (now : Nat) (x : CacheCall) (e : StoreError) :
    ((c.call now x).1 = .refused e ↔ ∃ key, x.key? = some key ∧ c.Refuses key e)
      ∧ ((c.call now x).1 = .refused e → (c.call now x).2 = c) := by
  cases hkey : x.key? with
  | none =>
    cases x with
    | setUnavailable b => exact ⟨by simp [call], fun h => nomatch h⟩
    | _ => cases hkey
  | some key =>
    simp only [Option.some.injEq, exists_eq_left', ← ready_error_iff]
    cases hready : c.ready key with
    | error e' => simp [call_of_error hkey hready]
    | ok u =>
      -- what is not refused has an answer of its own
      have hno : (c.call now x).1 ≠ .refused e := by
        rw [call_of_ready hkey hready]
        exact granted_ne_refused now _ x e
      exact ⟨by simp [hno], fun h => absurd h hno⟩

/-! ## §4. Caches that cannot be told apart. -/

/-- From now on two caches show the same. -/
structure Agrees (now : Nat) (c d : Cache) : Prop where
  unavailable : c.unavailable = d.unavailable
  nodup_left : (Assoc.keys c.entries).Nodup
  nodup_right : (Assoc.keys d.entries).Nodup
  shown : ∀ later key, now ≤ later → c.shown later key = d.shown later key

/-- Caches that show the same answer the same. -/
theorem Agrees.answer (h : Agrees now c d) {later : Nat} (hle : now ≤ later) (x : CacheCall) :
    (c.call later x).1 = (d.call later x).1 := by
  cases hkey : x.key? with
  | none =>
    cases x with
    | setUnavailable b => rfl
    | _ => cases hkey
  | some key =>
    -- both refuse the call, or both grant it the same
    have hsame := ready_congr h.unavailable key
    cases hready : c.ready key with
    | error e =>
      rw [hready] at hsame
      rw [call_of_error hkey hready, call_of_error hkey hsame.symm]
    | ok u =>
      rw [hready] at hsame
      rw [call_of_ready hkey hready, call_of_ready hkey hsame.symm, h.shown later key hle]

/-- A call leaves caches that show the same. -/
theorem Agrees.call (h : Agrees now c d) {later : Nat} (hle : now ≤ later) (x : CacheCall) :
    Agrees later (c.call later x).2 (d.call later x).2 where
  unavailable := by rw [unavailable_call, unavailable_call, h.unavailable]
  nodup_left := nodup_call h.nodup_left later x
  nodup_right := nodup_call h.nodup_right later x
  shown := by
    intro later' key hle'
    have hevent : c.event later x = d.event later x := by
      unfold event
      rw [h.answer hle x]
    rw [shown_call h.nodup_left hle', shown_call h.nodup_right hle', hevent,
      h.shown later' key (Nat.le_trans hle hle')]

/-- What is answered to one call after the other, each at its time. -/
def answers (c : Cache) : List (Nat × CacheCall) → List CacheAnswer
  | [] => []
  | y :: calls => (c.call y.1 y.2).1 :: answers (c.call y.1 y.2).2 calls

end Cache

/-- Calls from a time on, none of them before another that it follows. -/
def CallsFrom (now : Nat) (calls : List (Nat × CacheCall)) : Prop :=
  (∀ y ∈ calls, now ≤ y.1) ∧ calls.Pairwise fun y z => y.1 ≤ z.1

theorem callsFrom_cons {now : Nat} {y : Nat × CacheCall} {calls : List (Nat × CacheCall)} :
    CallsFrom now (y :: calls) ↔ now ≤ y.1 ∧ CallsFrom y.1 calls := by
  unfold CallsFrom
  rw [List.forall_mem_cons, List.pairwise_cons]
  constructor
  · intro h
    obtain ⟨⟨hy, -⟩, hfirst, hrest⟩ := h
    exact ⟨hy, hfirst, hrest⟩
  · intro h
    obtain ⟨hy, hfirst, hrest⟩ := h
    exact ⟨⟨hy, fun z hz => Nat.le_trans hy (hfirst z hz)⟩, hfirst, hrest⟩

/-- **Caches that show the same cannot be told apart** by any calls that
follow. -/
theorem Cache.answers_eq_of_agrees {now : Nat} {c d : Cache} (h : Cache.Agrees now c d)
    {calls : List (Nat × CacheCall)} (hcalls : CallsFrom now calls) :
    c.answers calls = d.answers calls := by
  induction calls generalizing now c d with
  | nil => rfl
  | cons y calls ih =>
    obtain ⟨hy, hrest⟩ := callsFrom_cons.mp hcalls
    unfold answers
    rw [h.answer hy, ih (h.call hy y.2) hrest]

/-! ## §5. Runs. -/

/-- A cache with its past, the last event first. -/
structure CacheRun where
  cache : Cache
  past : List CacheEvent

namespace CacheRun

/-- Makes one call at its time and notes it. -/
def call (r : CacheRun) (y : Nat × CacheCall) : CacheRun :=
  ⟨(r.cache.call y.1 y.2).2, r.cache.event y.1 y.2 :: r.past⟩

/-- Makes calls on an empty cache, one after the other. -/
def of (calls : List (Nat × CacheCall)) : CacheRun := calls.foldl call ⟨.empty, []⟩

/-- From now on a cache shows what its past tells: the value that the last
change of a key left, as long as it is live. -/
structure Mirrors (r : CacheRun) (now : Nat) : Prop where
  nodup : (Assoc.keys r.cache.entries).Nodup
  shown : ∀ later key, now ≤ later →
    r.cache.shown later key
      = ((lastChange key r.past).bind (·.left?)).filter (·.isLive later)

/-- **Every call keeps a cache the mirror of its past.** -/
theorem Mirrors.call {r : CacheRun} {now : Nat} (h : r.Mirrors now) {y : Nat × CacheCall}
    (hle : now ≤ y.1) : (r.call y).Mirrors y.1 where
  nodup := Cache.nodup_call h.nodup y.1 y.2
  shown := by
    intro later key hlater
    unfold CacheRun.call lastChange
    rw [Cache.shown_call h.nodup hlater]
    by_cases hchanges : (r.cache.event y.1 y.2).changes key = true
    · rw [if_pos hchanges, List.find?_cons_of_pos hchanges]
      rfl
    · rw [if_neg hchanges, List.find?_cons_of_neg hchanges,
        h.shown later key (Nat.le_trans hle hlater)]
      rfl

theorem mirrors_of {calls : List (Nat × CacheCall)} (hcalls : CallsFrom 0 calls) {now : Nat}
    (hnow : ∀ y ∈ calls, y.1 ≤ now) : (of calls).Mirrors now := by
  have hstart : Mirrors ⟨.empty, []⟩ 0 := ⟨List.nodup_nil, fun _ _ _ => rfl⟩
  -- the run so far varies along the calls, and so does its time
  suffices hkeep : ∀ (cs : List (Nat × CacheCall)) (r : CacheRun) (t : Nat), r.Mirrors t →
      CallsFrom t cs → t ≤ now → (∀ y ∈ cs, y.1 ≤ now) → (cs.foldl CacheRun.call r).Mirrors now from
    hkeep calls _ 0 hstart hcalls (Nat.zero_le now) hnow
  intro cs
  induction cs with
  | nil =>
    intro r t h _ ht _
    exact ⟨h.nodup, fun later key hlater => h.shown later key (Nat.le_trans ht hlater)⟩
  | cons y cs ih =>
    intro r t h hcs _ hnow
    obtain ⟨hy, hrest⟩ := callsFrom_cons.mp hcs
    exact ih (r.call y) y.1 (h.call hy) hrest (hnow y List.mem_cons_self)
      fun z hz => hnow z (List.mem_cons_of_mem _ hz)

end CacheRun

/-- A change is a successful set or delete of the key. -/
theorem CacheEvent.changes_iff {key : String} {e : CacheEvent} :
    e.changes key = true
      ↔ (∃ t value ttl, e = ⟨t, .set key value ttl, .done⟩) ∨ ∃ t, e = ⟨t, .delete key, .done⟩ := by
  constructor
  · intro h
    unfold changes at h
    split at h
    · next t k value ttl =>
      obtain rfl : k = key := of_decide_eq_true h
      exact .inl ⟨t, value, ttl, rfl⟩
    · next t k =>
      obtain rfl : k = key := of_decide_eq_true h
      exact .inr ⟨t, rfl⟩
    · cases h
  · intro h
    rcases h with ⟨t, value, ttl, rfl⟩ | ⟨t, rfl⟩
    · exact decide_eq_true rfl
    · exact decide_eq_true rfl

/-- A value is told by the past if the last change of its key set it and it has
not expired. -/
theorem map_value_lastChange_iff {key v : String} {past : List CacheEvent} {now : Nat} :
    ((((lastChange key past).bind (·.left?)).filter (·.isLive now)).map (·.value)) = some v
      ↔ ∃ t ttl, lastChange key past = some ⟨t, .set key v ttl, .done⟩
        ∧ ∀ seconds, ttl = some seconds → now < t + seconds := by
  rw [Option.map_eq_some_iff]
  constructor
  · intro h
    obtain ⟨entry, hentry, hv⟩ := h
    obtain ⟨hbind, hlive⟩ := Option.filter_eq_some_iff.mp hentry
    obtain ⟨e, he, hleft⟩ := Option.bind_eq_some_iff.mp hbind
    rcases CacheEvent.changes_iff.mp (List.find?_some he) with ⟨t, value, ttl, rfl⟩ | ⟨t, rfl⟩
    · cases hleft
      cases hv
      exact ⟨t, ttl, he, CacheEntry.isLive_iff.mp hlive⟩
    · cases hleft
  · intro h
    obtain ⟨t, ttl, he, hlive⟩ := h
    refine ⟨⟨v, ttl.map (t + ·)⟩, Option.filter_eq_some_iff.mpr ⟨?_, ?_⟩, rfl⟩
    · rw [he]
      rfl
    · exact CacheEntry.isLive_iff.mpr hlive

namespace CacheRun

/-- **A CACHE IS A MAP WHOSE VALUES EXPIRE.**  Make any calls on an empty
cache at times that never go back, with the cache going unavailable and coming
back in between; a value that the clock could not keep to its end is not set.
From the last call on, whenever the cache is available:

  * a key that is not empty has a value exactly if the last successful set or
    delete of it set that value, and the time of this has not elapsed; and it
    is there exactly if it has a value;
  * after a value is set, every other one that is stored is live, and no calls
    that follow can tell that anything was swept out;
  * nor can they tell that a value was asked for, and taken out if it had
    expired;
  * a call is refused only for an unavailable cache or else for an empty key,
    and then it changes nothing. -/
theorem run_reads_last_set {calls : List (Nat × CacheCall)} (hcalls : CallsFrom 0 calls) {now : Nat}
    (hnow : ∀ y ∈ calls, y.1 ≤ now) :
    (∀ key, key ≠ "" → (of calls).cache.unavailable = false →
        ∃ value d, (of calls).cache.get now key = .ok (value, d)
          ∧ (of calls).cache.exists? now key = .ok (value.isSome, d)
          ∧ ∀ v, value = some v
            ↔ ∃ t ttl, lastChange key (of calls).past = some ⟨t, .set key v ttl, .done⟩
              ∧ ∀ seconds, ttl = some seconds → now < t + seconds)
      ∧ (∀ key value ttl d, (of calls).cache.set now key value ttl = .ok (some d) →
        (∀ e ∈ d.entries, e.1 ≠ key → e.2.isLive now = true)
          ∧ ∀ later, CallsFrom now later → d.answers later
            = ((of calls).cache.put key ⟨value, ttl.map (now + ·)⟩).answers later)
      ∧ (∀ key value d, (of calls).cache.get now key = .ok (value, d) →
        ∀ later, CallsFrom now later → d.answers later = (of calls).cache.answers later)
      ∧ ∀ x e,
        (((of calls).cache.call now x).1 = .refused e
            ↔ ∃ key, x.key? = some key ∧ (of calls).cache.Refuses key e)
          ∧ (((of calls).cache.call now x).1 = .refused e →
            ((of calls).cache.call now x).2 = (of calls).cache) := by
  have h := mirrors_of hcalls hnow
  refine ⟨fun key hkey havailable => ?_, fun key value ttl d hset => ⟨?_, fun later hlater => ?_⟩,
    fun key value d hget later hlater => ?_, (of calls).cache.call_refused_iff now⟩
  · have hready := Cache.ready_ok_iff.mpr ⟨havailable, hkey⟩
    obtain ⟨d, hget, -⟩ := Cache.get_of_ready hready now
    refine ⟨_, d, hget, ?_, fun v => ?_⟩
    · rw [Cache.exists?_eq, hget]
      rfl
    · rw [h.shown now key (Nat.le_refl now)]
      exact map_value_lastChange_iff
  · exact fun e he hne => Cache.isLive_of_set hset he hne
  · -- with the sweep and without it, the same is shown from now on
    obtain rfl := Cache.eq_of_set hset
    have hagrees : Cache.Agrees now
        (((of calls).cache.swept now).put key ⟨value, ttl.map (now + ·)⟩)
        ((of calls).cache.put key ⟨value, ttl.map (now + ·)⟩) := by
      refine ⟨rfl, ?_, ?_, fun later' other hle => ?_⟩
      · exact Assoc.nodup_keys_insert (Assoc.nodup_keys_filter h.nodup _) key _
      · exact Assoc.nodup_keys_insert h.nodup key _
      · rw [Cache.shown_put, Cache.shown_put, Cache.shown_swept h.nodup hle]
    exact Cache.answers_eq_of_agrees hagrees hlater
  · have hcall : (of calls).cache.call now (.get key) = (.value value, d) := by
      simp only [Cache.call, hget]
    have hd : d = ((of calls).cache.call now (.get key)).2 := by rw [hcall]
    rw [hd]
    refine Cache.answers_eq_of_agrees ⟨?_, ?_, h.nodup, fun later' other hle => ?_⟩ hlater
    · exact Cache.unavailable_call _ _ _
    · exact Cache.nodup_call h.nodup now (.get key)
    · rw [Cache.shown_call h.nodup hle]
      exact if_neg Bool.false_ne_true

/-- One value that is kept for five seconds, and one that stays. -/
def twoValues : List (Nat × CacheCall) :=
  [(1, .set "session" "ada" (some 5)), (2, .set "theme" "dark" none)]

/-- Seven seconds on, the first of the two is gone and the other is there. -/
theorem run_reads_last_set_twoValues :
    CallsFrom 0 twoValues ∧ (∀ y ∈ twoValues, y.1 ≤ 7)
      ∧ (∃ d, (of twoValues).cache.get 7 "session" = .ok (none, d))
      ∧ ∃ d, (of twoValues).cache.get 7 "theme" = .ok (some "dark", d) := by
  have hcalls : CallsFrom 0 twoValues := by
    unfold CallsFrom
    decide
  have hnow : ∀ y ∈ twoValues, y.1 ≤ 7 := by decide
  obtain ⟨hreads, -⟩ := run_reads_last_set hcalls hnow
  refine ⟨hcalls, hnow, ?_, ?_⟩
  · obtain ⟨value, d, hget, -, hvalue⟩ := hreads "session" (by decide) rfl
    cases value with
    | none => exact ⟨d, hget⟩
    | some v =>
      obtain ⟨t, ttl, hlast, hlive⟩ := (hvalue v).mp rfl
      cases hlast
      have hlt := hlive 5 rfl
      omega
  · obtain ⟨value, d, hget, -, hvalue⟩ := hreads "theme" (by decide) rfl
    have hv : value = some "dark" := (hvalue "dark").mpr ⟨2, none, rfl, nofun⟩
    exact ⟨d, hv ▸ hget⟩

end CacheRun

end DataAccess
