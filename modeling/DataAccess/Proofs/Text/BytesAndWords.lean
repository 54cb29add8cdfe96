/-
  DataAccess.Proofs.Text.BytesAndWords — the order of the bytes of texts, and
  what counts as a word.

  Texts are compared by code points.  A code point is made of digits of six
  bits, and its UTF-8 form spells them out after a byte that tells how many
  there are, so that the order of the code points is that of the bytes.  Words
  are split off by a scan; they are the longest runs without blanks.

  Main statements:
    * `utf8EncodeChar_lt`    — the smaller character has the smaller bytes;
    * `orderText_eq_lt_iff`  — so texts stand in the order of their bytes;
    * `mem_words_iff`        — the words of a text are its longest runs without
                               blanks.
-/
import DataAccess.Scalar
import DataAccess.Text.Blank

namespace DataAccess

/-! ## §1. The order of bytes. -/

namespace Text

/-- The bytes of a text, in UTF-8. -/
def bytes (s : String) : List UInt8 := s.toByteArray.data.toList

theorem bytes_eq (s : String) : bytes s = s.toList.flatMap String.utf8EncodeChar := by
  unfold bytes
  rw [← String.utf8Encode_toList, List.utf8Encode, List.toList_data_toByteArray]

theorem ofNat_lt_ofNat {m n : Nat} (hm : m < 256) (hn : n < 256) :
    UInt8.ofNat m < UInt8.ofNat n ↔ m < n := by
  rw [UInt8.lt_iff_toNat_lt, UInt8.toNat_ofNat', UInt8.toNat_ofNat', Nat.mod_eq_of_lt hm,
    Nat.mod_eq_of_lt hn]

theorem ofNat_inj {m n : Nat} (hm : m < 256) (hn : n < 256) :
    UInt8.ofNat m = UInt8.ofNat n ↔ m = n := by
  rw [← UInt8.toNat_inj, UInt8.toNat_ofNat', UInt8.toNat_ofNat', Nat.mod_eq_of_lt hm,
    Nat.mod_eq_of_lt hn]

/-- A code point is made of digits of six bits. -/
theorem exists_sextets (n : Nat) :
    ∃ a b c d, n / 262144 = a ∧ n / 4096 % 64 = b ∧ n / 64 % 64 = c ∧ n % 64 = d
      ∧ b < 64 ∧ c < 64 ∧ d < 64 ∧ n = 262144 * a + 4096 * b + 64 * c + d := by
  have h₂ : n / 4096 = n / 64 / 64 := (Nat.div_div_eq_div_mul n 64 64).symm
  have h₃ : n / 262144 = n / 64 / 64 / 64 := by
    rw [Nat.div_div_eq_div_mul, Nat.div_div_eq_div_mul]
  refine ⟨_, _, _, _, rfl, rfl, rfl, rfl, ?_⟩
  omega

/-- **Of two characters the smaller one has the smaller bytes**, whatever
follows them. -/
theorem utf8EncodeChar_lt {c d : Char} (h : c.toNat < d.toNat) (xs ys : List UInt8) :
    String.utf8EncodeChar c ++ xs < String.utf8EncodeChar d ++ ys := by
  have hc : c.val.toNat < d.val.toNat := h
  have hd : d.val.toNat < 1114112 := by
    rcases d.valid with hlow | ⟨-, hhigh⟩
    · show d.val.toNat < 1114112
      omega
    · exact hhigh
  unfold String.utf8EncodeChar
  clear h
  generalize c.val.toNat = m at hc ⊢
  generalize d.val.toNat = n at hc hd ⊢
  dsimp only
  by_cases hlong : m ≤ 65535
  · -- a longer form starts with a larger byte
    (repeat' split) <;>
      simp (disch := omega) only [List.cons_append, List.nil_append, List.cons_lt_cons_iff,
        ofNat_lt_ofNat, ofNat_inj] <;>
      omega
  · -- both have four bytes, and the first digit that differs decides
    obtain ⟨m₃, m₂, m₁, m₀, hm₃, hm₂, hm₁, hm₀, hm⟩ := exists_sextets m
    obtain ⟨n₃, n₂, n₁, n₀, hn₃, hn₂, hn₁, hn₀, hn⟩ := exists_sextets n
    rw [if_neg (show ¬ m ≤ 127 by omega), if_neg (show ¬ m ≤ 2047 by omega), if_neg hlong,
      if_neg (show ¬ n ≤ 127 by omega), if_neg (show ¬ n ≤ 2047 by omega),
      if_neg (show ¬ n ≤ 65535 by omega), hm₃, hm₂, hm₁, hm₀, hn₃, hn₂, hn₁, hn₀]
    clear hm₃ hm₂ hm₁ hm₀ hn₃ hn₂ hn₁ hn₀
    simp (disch := omega) only [List.cons_append, List.nil_append, List.cons_lt_cons_iff,
      ofNat_lt_ofNat, ofNat_inj]
    omega

theorem utf8EncodeChar_append_pos (c : Char) (xs : List UInt8) :
    [] < String.utf8EncodeChar c ++ xs := by
  unfold String.utf8EncodeChar
  dsimp only
  (repeat' split) <;> exact List.nil_lt_cons _ _

theorem append_lt_append_left (ws : List UInt8) {xs ys : List UInt8} :
    ws ++ xs < ws ++ ys ↔ xs < ys := by
  induction ws with
  | nil => rfl
  | cons w ws ih =>
    rw [List.cons_append, List.cons_append, List.cons_lt_cons_iff, ih]
    simp

theorem orderChars_eq_lt_iff {as bs : List Char} :
    orderChars as bs = .lt
      ↔ as.flatMap String.utf8EncodeChar < bs.flatMap String.utf8EncodeChar := by
  induction as generalizing bs with
  | nil =>
    cases bs with
    | nil => simp [orderChars]
    | cons b bs => simpa [orderChars] using utf8EncodeChar_append_pos b _
  | cons a as ih =>
    cases bs with
    | nil => simp [orderChars]
    | cons b bs =>
      rw [orderChars, List.flatMap_cons, List.flatMap_cons]
      by_cases hab : a = b
      · rw [if_pos hab, hab, append_lt_append_left, ih]
      · rw [if_neg hab]
        by_cases hlt : a.toNat < b.toNat
        · rw [if_pos hlt]
          exact iff_of_true rfl (utf8EncodeChar_lt hlt _ _)
        · have hne : a.toNat ≠ b.toNat := fun h => hab (Char.toNat_inj.mp h)
          have hgt := utf8EncodeChar_lt (show b.toNat < a.toNat by omega)
            (bs.flatMap String.utf8EncodeChar) (as.flatMap String.utf8EncodeChar)
          rw [if_neg hlt]
          exact iff_of_false Ordering.noConfusion (List.lt_asymm hgt)

/-- **Texts stand in the order of their bytes.** -/
theorem orderText_eq_lt_iff {a b : String} : orderText a b = .lt ↔ bytes a < bytes b := by
  rw [bytes_eq, bytes_eq]
  exact orderChars_eq_lt_iff

/-- Of two texts one has the smaller bytes. -/
theorem bytes_lt_of_not_lt {a b : String} (hne : a ≠ b) (h : ¬ bytes a < bytes b) :
    bytes b < bytes a := by
  rcases List.le_iff_lt_or_eq.mp (List.not_lt.mp h) with hlt | heq
  · exact hlt
  · have hba : b = a := String.toByteArray_inj.mp (ByteArray.ext (Array.toList_inj.mp heq))
    exact absurd hba.symm hne

end Text

/-! ## §2. Words. -/

namespace Text

/-- A longest run of characters that are not blank. -/
structure IsRun (run cs : List Char) : Prop where
  nonempty : run ≠ []
  unbroken : ∀ c ∈ run, isBlank c = false
  longest : ∃ before after, cs = before ++ run ++ after
    ∧ (∀ c ∈ before.getLast?, isBlank c = true) ∧ ∀ c ∈ after.head?, isBlank c = true

/-- A word of a text, as they stand between blanks. -/
def IsWordOf (word text : String) : Prop := IsRun word.toList text.toList

/-- A text without blanks is its only word, unless it is empty. -/
theorem isRun_iff_of_unbroken {run cs : List Char} (h : ∀ c ∈ cs, isBlank c = false) :
    IsRun run cs ↔ run = cs ∧ cs ≠ [] := by
  constructor
  · intro hrun
    obtain ⟨before, after, rfl, hbefore, hafter⟩ := hrun.longest
    -- what stands before and after it would be blank
    have hb : before = [] := by
      rcases List.eq_nil_or_concat before with hnil | ⟨before', c, rfl⟩
      · exact hnil
      · have hc := hbefore c (by simp)
        rw [h c (by simp)] at hc
        cases hc
    have ha : after = [] := by
      cases after with
      | nil => rfl
      | cons c after =>
        have hc := hafter c rfl
        rw [h c (by simp)] at hc
        cases hc
    subst hb ha
    simpa using hrun.nonempty
  · intro hrun
    obtain ⟨rfl, hne⟩ := hrun
    exact ⟨hne, h, [], [], by simp, nofun, nofun⟩

/-- A blank parts the words before it from those after it. -/
theorem isRun_append_blank_iff {run start cs : List Char} {c : Char} (hc : isBlank c = true) :
    IsRun run (start ++ c :: cs) ↔ IsRun run start ∨ IsRun run cs := by
  constructor
  · intro hrun
    have hno : c ∉ run := fun hmem => Bool.false_ne_true (hrun.unbroken c hmem ▸ hc)
    obtain ⟨before, after, heq, hbefore, hafter⟩ := hrun.longest
    rw [List.append_assoc, List.append_eq_append_iff] at heq
    rcases heq with ⟨between, rfl, hrest⟩ | ⟨between, rfl, hrest⟩
    · cases between with
      | nil =>
        -- the run would start with the blank
        obtain ⟨d, run, rfl⟩ := List.exists_cons_of_ne_nil hrun.nonempty
        cases hrest
        exact absurd List.mem_cons_self hno
      | cons d between =>
        obtain ⟨rfl, rfl⟩ := List.cons.inj hrest
        refine .inr ⟨hrun.nonempty, hrun.unbroken, between, after, by simp, fun e he => ?_, hafter⟩
        have hlast : between.getLast? = some e := he
        exact hbefore e (by simp [List.getLast?_cons, hlast])
    · rcases List.append_eq_append_iff.mp hrest with ⟨more, rfl, rfl⟩ | ⟨more, rfl, hmore⟩
      · refine .inl ⟨hrun.nonempty, hrun.unbroken, before, more, by simp, hbefore, fun e he => ?_⟩
        have hhead : more.head? = some e := he
        exact hafter e (by simp [hhead])
      · cases more with
        | nil =>
          rw [List.append_nil] at hrun ⊢
          exact .inl ⟨hrun.nonempty, hrun.unbroken, before, [], by simp, hbefore, nofun⟩
        | cons d more =>
          -- the run would hold the blank
          obtain ⟨rfl, -⟩ := List.cons.inj hmore
          exact absurd (by simp) hno
  · intro hrun
    rcases hrun with hrun | hrun
    · obtain ⟨before, after, rfl, hbefore, hafter⟩ := hrun.longest
      refine ⟨hrun.nonempty, hrun.unbroken, before, after ++ c :: cs, by simp, hbefore, ?_⟩
      cases after with
      | nil => simpa using hc
      | cons d after => exact hafter
    · obtain ⟨before, after, rfl, hbefore, hafter⟩ := hrun.longest
      refine ⟨hrun.nonempty, hrun.unbroken, start ++ c :: before, after, by simp, ?_, hafter⟩
      intro d hd
      cases hlast : before.getLast? with
      | none =>
        have hd' : c = d := by simpa [List.getLast?_cons, hlast] using hd
        exact hd' ▸ hc
      | some e =>
        have hd' : e = d := by simpa [List.getLast?_cons, hlast] using hd
        exact hbefore d (hd' ▸ hlast)

theorem mem_splitWords_iff {word run cs : List Char} (hword : ∀ c ∈ word, isBlank c = false) :
    run ∈ splitWords word cs ↔ IsRun run (word.reverse ++ cs) := by
  induction cs generalizing word with
  | nil =>
    rw [List.append_nil, isRun_iff_of_unbroken (by simpa using hword)]
    cases word <;> simp [splitWords]
  | cons c cs ih =>
    rw [splitWords]
    by_cases hc : isBlank c = true
    · rw [if_pos hc, isRun_append_blank_iff hc, isRun_iff_of_unbroken (by simpa using hword)]
      have hrest : run ∈ splitWords [] cs ↔ IsRun run cs := ih (List.forall_mem_nil _)
      cases word with
      | nil => simpa using hrest
      | cons d word => simpa using or_congr_right hrest
    · have hc' : isBlank c = false := by simpa using hc
      rw [if_neg hc]
      have hmore : ∀ d ∈ c :: word, isBlank d = false := List.forall_mem_cons.mpr ⟨hc', hword⟩
      rw [ih hmore, List.reverse_cons, List.append_assoc, List.singleton_append]

/-- **The words of a text are its longest runs without blanks.** -/
theorem mem_words_iff {word text : String} : word ∈ words text ↔ IsWordOf word text := by
  unfold words IsWordOf
  rw [List.mem_map]
  constructor
  · intro h
    obtain ⟨run, hrun, rfl⟩ := h
    rw [String.toList_ofList]
    exact (mem_splitWords_iff (List.forall_mem_nil _)).mp hrun
  · intro h
    exact ⟨word.toList, (mem_splitWords_iff (List.forall_mem_nil _)).mpr h, String.ofList_toList⟩

end Text

end DataAccess
