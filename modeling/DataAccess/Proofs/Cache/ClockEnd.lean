/-
  DataAccess.Proofs.Cache.ClockEnd — how long a value may be kept.

  The second from which on a value is missing is the time at which it is set
  plus its time to live, and it has to be on the clock.  Nobody on the way of a
  time to live sees to that: the settings accept every number of 64 bits, the
  operation on the cache passes it on, and the cache adds it.  So there is one
  case in which setting a value comes to nothing,

      the clock ends before the value expires,

  and in every other the value is kept and reads back at once.

  Main statements:
    * `clockEnds_iff`           — that case in plain numbers;
    * `set_of_ready`            — what comes of setting a value otherwise;
    * `setValue_of_encode`      — and so of keeping a value in a cache;
    * `cacheDefaultTtl_ne_zero` — what settings ask for is never over at once;
    * `kept_unless_clock_ends`  — all of it, for any settings;
    * `longest_life_lost`       — the settings accept what the clock cannot keep.
-/
import DataAccess.Persistence.Values
import DataAccess.Proofs.Cache.Expiry
import DataAccess.Proofs.Settings.Loading
import DataAccess.Sample.Engines
import DataAccess.Sample.Values

namespace DataAccess

/-! ## §1. Caches. -/

namespace Cache

variable {c d : Cache} {now : Nat} {key value : String} {ttl : Option Nat}

theorem clockEnds_iff :
    ClockEnds now ttl ↔ ∃ seconds, ttl = some seconds ∧ lastSecond < now + seconds := by
  unfold ClockEnds
  cases ttl with
  | none => simp
  | some seconds => simp

theorem not_clockEnds (h : ∀ seconds, ttl = some seconds → now + seconds ≤ lastSecond) :
    ¬ ClockEnds now ttl := by
  intro hends
  obtain ⟨seconds, httl, hlt⟩ := clockEnds_iff.mp hends
  have hle := h seconds httl
  omega

/-- **A value that is set** is kept unless the clock ends before it expires. -/
theorem set_of_ready (h : c.ready key = .ok ()) (now : Nat) (value : String) (ttl : Option Nat) :
    c.set now key value ttl = .ok (if ClockEnds now ttl then none
      else some ((c.swept now).put key ⟨value, ttl.map (now + ·)⟩)) := by
  rw [set_eq, h]
  rfl

/-- Right after it is set a value is live, unless it has no time at all. -/
theorem isLive_at_once (h : ttl ≠ some 0) :
    (CacheEntry.mk value (ttl.map (now + ·))).isLive now = true := by
  refine CacheEntry.isLive_iff.mpr fun seconds hseconds => ?_
  have hpos : seconds ≠ 0 := fun hzero => h (hseconds.trans (congrArg some hzero))
  omega

/-- **So it reads back at once.** -/
theorem get_at_once (h : c.set now key value ttl = .ok (some d)) (hpos : ttl ≠ some 0) :
    d.get now key = .ok (some value, d) :=
  get_set h (isLive_at_once hpos)

/-! ## §2. Operations on a cache. -/

section Operations

variable {α : Type} {T : JsonType α} {a : α} {default : Option Nat}

/-- What comes of keeping a value that has no JSON form. -/
theorem setValue_of_encode_error {e : JsonEncodeError} (h : T.encode a = .error e) :
    c.setValue T default now key a ttl
      = some (.failed (context "set_cache" key) (.other (.encoding e)), c) := by
  unfold setValue
  rw [h]

/-- **Keeping a value comes out as setting its JSON form.** -/
theorem setValue_of_encode {j : Json} (h : T.encode a = .ok j) (hready : c.ready key = .ok ()) :
    c.setValue T default now key a ttl
      = if ClockEnds now (ttl.or default) then none
        else some (.done (context "set_cache" key) "value cached" (),
          (c.swept now).put key ⟨j.render, (ttl.or default).map (now + ·)⟩) := by
  unfold setValue
  rw [h]
  by_cases hends : ClockEnds now (ttl.or default)
  · simp only [set_of_ready hready, if_pos hends]
  · simp only [set_of_ready hready, if_neg hends]

/-- A value whose text is read as it should be is a hit. -/
theorem getValue_of_get {text : String} {b : α} (hget : c.get now key = .ok (some text, d))
    (hread : T.ofText text = .ok b) :
    c.getValue T now key = (.done (context "get_cache" key) "cache hit" (some b), d) := by
  unfold getValue
  rw [hget]
  simp only [hread]
  rfl

end Operations

end Cache

/-! ## §3. Settings. -/

namespace Settings

variable {lookup : String → Option String} {settings : Settings}

/-- Zero seconds are read as no life span. -/
theorem readTtl_ne_zero {text : String} {ttl : Option Nat} (h : readTtl text = .ok ttl) :
    ttl ≠ some 0 := by
  unfold readTtl at h
  rintro rfl
  split at h
  · cases h
  · cases h
  · cases h

/-- The default life span is what its variable says, none if that is not set. -/
theorem cacheDefaultTtl_of_load (h : load lookup = .ok settings) :
    (lookupSet lookup cacheTtlName).elim (.ok none) readTtl = .ok settings.cacheDefaultTtl := by
  rw [load_eq] at h
  obtain ⟨connections, -, h⟩ := bind_ok_iff.mp h
  obtain ⟨ttl, hread, h⟩ := bind_ok_iff.mp h
  cases h
  exact hread

/-- A default life span is never over at once. -/
theorem cacheDefaultTtl_ne_zero (h : load lookup = .ok settings) :
    settings.cacheDefaultTtl ≠ some 0 := by
  have hread := cacheDefaultTtl_of_load h
  cases httl : lookupSet lookup cacheTtlName with
  | none =>
    rw [httl] at hread
    intro hzero
    rw [hzero] at hread
    cases hread
  | some text =>
    rw [httl] at hread
    exact readTtl_ne_zero hread

end Settings

/-! ## §4. Values are kept as long as the clock goes on. -/

namespace Cache

/-- **A VALUE IS KEPT UNLESS THE CLOCK ENDS BEFORE IT EXPIRES.**  Take any
cache that is available, any key that is not empty and any time.

  * Setting a value comes to nothing exactly if it has a time to live and the
    clock ends before that is over.  Otherwise the value is kept, and it reads
    back at once unless it has no time at all.
  * The same goes for keeping a value through the operation on the cache, with
    the default life span of any settings that are accepted for a value that is
    given none; a value without a JSON form is refused before that.  A default
    life span is never over at once. -/
theorem kept_unless_clock_ends {c : Cache} (havailable : c.unavailable = false) {key : String}
    (hkey : key ≠ "") (now : Nat) :
    (∀ value ttl,
        (c.set now key value ttl = .ok none
            ↔ ∃ seconds, ttl = some seconds ∧ lastSecond < now + seconds)
          ∧ ((∀ seconds, ttl = some seconds → now + seconds ≤ lastSecond) →
            ∃ d, c.set now key value ttl = .ok (some d)
              ∧ (ttl ≠ some 0 → d.get now key = .ok (some value, d))))
      ∧ ∀ lookup settings, Settings.load lookup = .ok settings →
        settings.cacheDefaultTtl ≠ some 0
          ∧ ∀ (α : Type) (T : JsonType α) (a : α) (ttl : Option Nat),
            (∀ e, T.encode a = .error e →
                c.setValue T settings.cacheDefaultTtl now key a ttl
                  = some (.failed (context "set_cache" key) (.other (.encoding e)), c))
              ∧ ∀ j, T.encode a = .ok j →
                (c.setValue T settings.cacheDefaultTtl now key a ttl = none
                    ↔ ∃ seconds, ttl.or settings.cacheDefaultTtl = some seconds
                      ∧ lastSecond < now + seconds)
                  ∧ ((∀ seconds, ttl.or settings.cacheDefaultTtl = some seconds →
                      now + seconds ≤ lastSecond) →
                    ∃ d, c.setValue T settings.cacheDefaultTtl now key a ttl
                        = some (.done (context "set_cache" key) "value cached" (), d)
                      ∧ (ttl ≠ some 0 → d.get now key = .ok (some j.render, d)
                        ∧ ∀ b, T.ofText j.render = .ok b → d.getValue T now key
                          = (.done (context "get_cache" key) "cache hit" (some b), d))) := by
  have hready : c.ready key = .ok () := ready_ok_iff.mpr ⟨havailable, hkey⟩
  refine ⟨fun value ttl => ⟨?_, fun hlasts => ?_⟩, fun lookup settings hload =>
    ⟨Settings.cacheDefaultTtl_ne_zero hload, fun α T a ttl =>
      ⟨fun e he => setValue_of_encode_error he, fun j hj => ⟨?_, fun hlasts => ?_⟩⟩⟩⟩
  · rw [set_of_ready hready, ← clockEnds_iff]
    split <;> simp [*]
  · have hset := set_of_ready hready now value ttl
    rw [if_neg (not_clockEnds hlasts)] at hset
    exact ⟨_, hset, get_at_once hset⟩
  · rw [setValue_of_encode hj hready, ← clockEnds_iff]
    split <;> simp [*]
  · have hset := set_of_ready hready now j.render (ttl.or settings.cacheDefaultTtl)
    have hvalue : c.setValue T settings.cacheDefaultTtl now key a ttl = _ :=
      setValue_of_encode hj hready
    rw [if_neg (not_clockEnds hlasts)] at hset hvalue
    refine ⟨_, hvalue, fun hne => ?_⟩
    -- the settings allow no default life span of nothing
    have hpos : ttl.or settings.cacheDefaultTtl ≠ some 0 := by
      cases ttl with
      | none => exact Settings.cacheDefaultTtl_ne_zero hload
      | some seconds => exact hne
    have hget := get_at_once hset hpos
    exact ⟨hget, fun b hb => getValue_of_get hget hb⟩

/-- Settings that let values live for five minutes. -/
def fiveMinutes (name : String) : Option String :=
  if name = Settings.cacheTtlName then some "300" else none

open DataAccess.Sample in
/-- With five minutes by default, a number that is kept reads back at once. -/
theorem kept_unless_clock_ends_fiveMinutes :
    empty.unavailable = false ∧ "visits" ≠ "" ∧ fiveMinutes Settings.cacheTtlName = some "300"
      ∧ Settings.load fiveMinutes = .ok { Settings.default with cacheDefaultTtl := some 300 }
      ∧ ∃ d, empty.setValue Sample.uint32Type (some 300) 7 "visits" 1 none
          = some (.done (context "set_cache" "visits") "value cached" (), d)
        ∧ d.get 7 "visits" = .ok (some "1", d)
        ∧ d.getValue Sample.uint32Type 7 "visits"
          = (.done (context "get_cache" "visits") "cache hit" (some 1), d) := by
  have hkey : "visits" ≠ "" := by decide
  have hload : Settings.load fiveMinutes
      = .ok { Settings.default with cacheDefaultTtl := some 300 } := by decide
  obtain ⟨-, hsettings⟩ := kept_unless_clock_ends (c := empty) rfl hkey 7
  obtain ⟨-, hvalues⟩ := hsettings fiveMinutes _ hload
  obtain ⟨-, hencoded⟩ := hvalues UInt32 Sample.uint32Type 1 none
  obtain ⟨-, hkept⟩ := hencoded (.number (.integer 1)) rfl
  have hlasts : ∀ seconds, Option.or none (some 300) = some seconds → 7 + seconds ≤ lastSecond := by
    intro seconds hseconds
    cases hseconds
    decide
  obtain ⟨d, hset, hread⟩ := hkept hlasts
  obtain ⟨hget, hvalue⟩ := hread (by decide)
  exact ⟨rfl, hkey, rfl, hload, d, hset, hget, hvalue 1 (by decide)⟩

/-- Settings that ask for the longest life span there is. -/
def longestLife (name : String) : Option String :=
  if name = Settings.cacheTtlName then some "18446744073709551615" else none

open DataAccess.Sample in
/-- The settings accept the longest life span, and then keeping a value without
one of its own comes to nothing: the clock cannot keep it so long. -/
theorem longest_life_lost :
    Settings.load longestLife
        = .ok { Settings.default with cacheDefaultTtl := some 18446744073709551615 }
      ∧ empty.set 7 "visits" "1" (some 18446744073709551615) = .ok none
      ∧ empty.setValue Sample.uint32Type (some 18446744073709551615) 7 "visits" 1 none = none := by
  decide

end Cache

end DataAccess
