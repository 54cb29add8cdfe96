/-
  DataAccess.Proofs.Json.WellFormed — what every JSON value that is read from a
  text is like.

  A JSON value has a key at most once in each of its objects, and its integers
  have 64 bits, with or without a sign.  Nothing in the type of values says so,
  but the reader sees to it: numbers that do not fit are read as doubles, and a
  member that is given twice takes the place of the first one.  The reader
  keeps unfinished containers on a stack, so the invariant is about them too,
  and the induction is on the tokens that are still to be read.

  Main statements:
    * `scan_sound`           — the integers among the tokens of a text fit;
    * `wellFormed_within`    — both functions of the reader keep the invariant;
    * `wellFormed_of_parse`  — what is read from a text is well-formed.
-/
import DataAccess.Json.Reader

namespace DataAccess

/-! ## §1. Well-formed values. -/

/-- A number that JSON has: an integer has 64 bits, with or without a sign. -/
def Number.InRange : Number → Prop
  | .integer n => Int64.minValue.toInt ≤ n ∧ n < UInt64.size
  | .float _ => True

namespace Json

/-- A value as a text can give it. -/
inductive WellFormed : Json → Prop where
  | null : WellFormed .null
  | boolean (b : Bool) : WellFormed (.boolean b)
  | number {n : Number} (inRange : n.InRange) : WellFormed (.number n)
  | string (s : String) : WellFormed (.string s)
  | array {items : List Json} (each : ∀ j ∈ items, WellFormed j) : WellFormed (.array items)
  /-- Every key of an object is there once. -/
  | object {members : Assoc String Json} (keys : (Assoc.keys members).Nodup)
      (each : ∀ m ∈ members, WellFormed m.2) : WellFormed (.object members)

/-- A token whose number, if it is one, is in range. -/
def Token.Sound : Token → Prop
  | .number (some n) => n.InRange
  | _ => True

/-- An unfinished container whose content so far is well-formed. -/
def Frame.WellFormed : Frame → Prop
  | .array items => ∀ j ∈ items, j.WellFormed
  | .object members _ => (Assoc.keys members).Nodup ∧ ∀ m ∈ members, m.2.WellFormed

/-! ## §2. Tokens. -/

/-- A number is read as an integer only if it fits. -/
theorem inRange_of_ofParts? {t : NumberText} {n : Number} (h : Number.ofParts? t = some n) :
    n.InRange := by
  unfold Number.ofParts? at h
  have hbound := gather_bound 0 t.whole (by decide)
  generalize gather 0 t.whole = g at h hbound
  obtain ⟨m, dropped⟩ := g
  simp only at h hbound
  split at h
  · split at h
    · -- too many digits
      obtain ⟨x, -, rfl⟩ := Option.map_eq_some_iff.mp h
      trivial
    split at h
    · cases h
      exact ⟨Int.le_trans (by decide) (Int.natCast_nonneg m), by omega⟩
    split at h
    · next hlow =>
      cases h
      exact ⟨hlow.2, by omega⟩
    · -- a negative integer that does not fit, or a negative zero
      cases h
      trivial
  · -- with a fraction or an exponent
    obtain ⟨x, -, rfl⟩ := Option.map_eq_some_iff.mp h
    trivial

theorem sound_of_takeToken? {cs rest : List Char} {t : Token} (h : takeToken? cs = some (t, rest)) :
    t.Sound := by
  unfold takeToken? at h
  split at h
  -- only the last two tokens depend on what follows: a text and a number
  case h_10 =>
    obtain ⟨p, -, hp⟩ := Option.map_eq_some_iff.mp h
    cases hp
    trivial
  case h_11 =>
    obtain ⟨⟨text, chars⟩, -, hp⟩ := Option.map_eq_some_iff.mp h
    cases hp
    show Token.Sound (.number (Number.ofParts? text))
    cases hn : Number.ofParts? text with
    | none => trivial
    | some n => exact inRange_of_ofParts? hn
  all_goals
    cases h
    trivial

theorem sound_of_scanWithin (fuel : Nat) : ∀ cs, ∀ t ∈ scanWithin fuel cs, t.Sound := by
  induction fuel with
  | zero => intro cs t ht; cases ht
  | succ fuel ih =>
    intro cs
    cases cs with
    | nil => intro t ht; cases ht
    | cons c cs =>
      unfold scanWithin
      split
      · exact ih cs
      split
      · next first rest h =>
        exact List.forall_mem_cons.mpr ⟨sound_of_takeToken? h, ih rest⟩
      · intro t ht
        rw [List.mem_singleton.mp ht]
        trivial

/-- The integers among the tokens of a text fit. -/
theorem scan_sound (s : String) : ∀ t ∈ scan s, t.Sound := sound_of_scanWithin _ _

/-! ## §3. Values. -/

/-- Nothing speaks against what has been read, nor against the tokens to come. -/
structure Sane (stack : List Frame) (ts : List Token) : Prop where
  frames : ∀ f ∈ stack, f.WellFormed
  tokens : ∀ t ∈ ts, t.Sound

variable {stack : List Frame} {ts us : List Token} {f : Frame}

/-- It is so with a part of the tokens. -/
theorem Sane.suffix (h : Sane stack ts) (hus : us <:+ ts) : Sane stack us :=
  ⟨h.frames, fun t ht => h.tokens t (hus.subset ht)⟩

/-- Opening a container. -/
theorem Sane.push (h : Sane stack ts) (hf : f.WellFormed) : Sane (f :: stack) ts :=
  ⟨List.forall_mem_cons.mpr ⟨hf, h.frames⟩, h.tokens⟩

/-- Closing a container. -/
theorem Sane.pop (h : Sane (f :: stack) ts) : f.WellFormed ∧ Sane stack ts :=
  ⟨h.frames f List.mem_cons_self, fun g hg => h.frames g (List.mem_cons_of_mem _ hg), h.tokens⟩

/-- An array without items yet. -/
theorem Frame.wellFormed_array : (Frame.array []).WellFormed := fun _ hj => nomatch hj

/-- An object without members yet. -/
theorem Frame.wellFormed_object {key : String} : (Frame.object [] key).WellFormed :=
  ⟨List.nodup_nil, fun _ hm => nomatch hm⟩

/-- A further item. -/
theorem Frame.WellFormed.item {items : List Json} {v : Json} (h : (Frame.array items).WellFormed)
    (hv : v.WellFormed) : (Frame.array (v :: items)).WellFormed :=
  List.forall_mem_cons.mpr ⟨hv, h⟩

/-- A further member, or another value for one. -/
theorem Frame.WellFormed.member {members : Assoc String Json} {key : String} {v : Json}
    (h : (Frame.object members key).WellFormed) (hv : v.WellFormed) (next : String) :
    (Frame.object (Assoc.insert members key v) next).WellFormed := by
  refine ⟨Assoc.nodup_keys_insert h.1 key v, fun m hm => ?_⟩
  rcases Assoc.mem_insert hm with rfl | hm
  · exact hv
  · exact h.2 m hm

/-- **Reading** keeps the invariant: a value that is read is well-formed, and so
is the one that a finished value ends up in. -/
theorem wellFormed_within (n : Nat) :
    ∀ {stack : List Frame} {ts : List Token}, ts.length < n → Sane stack ts →
      (∀ {v rest}, readValue stack ts = some (v, rest) → v.WellFormed)
        ∧ ∀ {w v rest}, w.WellFormed → close stack w ts = some (v, rest) → v.WellFormed := by
  induction n with
  | zero => intro stack ts hlen; cases hlen
  | succ n ih =>
    intro stack ts hlen hsane
    -- every step takes some tokens, and goes on with the rest of them
    have next : ∀ (taken : List Token) {inner : List Frame} {us : List Token}, taken ≠ [] →
        taken ++ us = ts → Sane inner us →
        (∀ {v rest}, readValue inner us = some (v, rest) → v.WellFormed)
          ∧ ∀ {w v rest}, w.WellFormed → close inner w us = some (v, rest) → v.WellFormed := by
      intro taken inner us htaken happend hs
      have hpos := List.length_pos_iff.mpr htaken
      rw [← happend, List.length_append] at hlen
      exact ih (by omega) hs
    constructor
    · -- a value: a scalar or an empty container ends here, others are opened
      intro v rest
      fun_cases readValue stack ts with
      | case1 us => exact (next [_] nofun rfl (hsane.suffix ⟨[_], rfl⟩)).2 .null
      | case2 b us => exact (next [_] nofun rfl (hsane.suffix ⟨[_], rfl⟩)).2 (.boolean b)
      | case3 k us =>
        have hk : k.InRange := hsane.tokens (.number (some k)) List.mem_cons_self
        exact (next [_] nofun rfl (hsane.suffix ⟨[_], rfl⟩)).2 (.number hk)
      | case4 s us => exact (next [_] nofun rfl (hsane.suffix ⟨[_], rfl⟩)).2 (.string s)
      | case5 us hdepth =>
        exact (next [_, _] nofun rfl (hsane.suffix ⟨[_, _], rfl⟩)).2 (.array nofun)
      | case6 => nofun
      | case7 us hclose hdepth =>
        have hs : Sane stack us := hsane.suffix ⟨[_], rfl⟩
        exact (next [_] nofun rfl (hs.push Frame.wellFormed_array)).1
      | case8 => nofun
      | case9 us hdepth =>
        exact (next [_, _] nofun rfl (hsane.suffix ⟨[_, _], rfl⟩)).2 (.object List.nodup_nil nofun)
      | case10 => nofun
      | case11 k us hdepth =>
        have hs : Sane stack us := hsane.suffix ⟨[_, _, _], rfl⟩
        exact (next [_, _, _] nofun rfl (hs.push Frame.wellFormed_object)).1
      | case12 => nofun
      | case13 => nofun
    · -- the end of a value: it goes into the innermost container, which may end too
      intro w v rest hw
      fun_cases close stack w ts with
      | case1 k us members key outer =>
        obtain ⟨hf, hs⟩ := (hsane.suffix ⟨[_, _, _], rfl⟩ : Sane _ us).pop
        exact (next [_, _, _] nofun rfl (hs.push (hf.member hw k))).1
      | case2 k us items outer =>
        obtain ⟨hf, hs⟩ := (hsane.suffix ⟨[_], rfl⟩ : Sane _ (.string (some k) :: .colon :: us)).pop
        exact (next [_] nofun rfl (hs.push (hf.item hw))).1
      | case3 => intro h; cases h; exact hw
      | case4 us hmember items outer =>
        obtain ⟨hf, hs⟩ := (hsane.suffix ⟨[_], rfl⟩ : Sane _ us).pop
        exact (next [_] nofun rfl (hs.push (hf.item hw))).1
      | case5 => nofun
      | case6 => intro h; cases h; exact hw
      | case7 us items outer =>
        obtain ⟨hf, hs⟩ := (hsane.suffix ⟨[_], rfl⟩ : Sane _ us).pop
        refine (next [_] nofun rfl hs).2 (.array fun j hj => ?_)
        exact hf.item hw j (List.mem_reverse.mp hj)
      | case8 => nofun
      | case9 => intro h; cases h; exact hw
      | case10 us members key outer =>
        obtain ⟨hf, hs⟩ := (hsane.suffix ⟨[_], rfl⟩ : Sane _ us).pop
        obtain ⟨hkeys, heach⟩ := hf.member hw key
        exact (next [_] nofun rfl hs).2 (.object hkeys heach)
      | case11 => nofun
      | case12 => intro h; cases h; exact hw
      | case13 => intro h; cases h; exact hw
      | case14 => nofun

/-- **What is read from a text** is well-formed. -/
theorem wellFormed_of_parse [Complaints] {s : String} {v : Json} (h : parse s = .ok v) :
    v.WellFormed := by
  have hsane : Sane [] (scan s) := ⟨nofun, scan_sound s⟩
  exact (wellFormed_within _ (Nat.lt_succ_self _) hsane).1 (parse_ok_iff.mp h)

end Json

end DataAccess
