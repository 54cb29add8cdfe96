/-
  DataAccess.Proofs.Settings.Loading — which variables make settings, and what
  settings they make.

  Two of the variables have to be numbers.  What counts as a number is said of
  its text as a whole,

      blanks  +  digits  blanks

  with the blanks and the plus sign left out at will, and the number between two
  bounds.  Both variables are cases of one definition, with their names and
  bounds.

  Main statements:
    * `exists_trimmed`, `trimChars_of_unbroken` — what trimming leaves;
    * `readNumber?_eq_some_iff` — the texts that are read as a number;
    * `elim_ok_iff`, `elim_error_iff` — what comes of a variable that has to be one;
    * `load_ok_iff`, `load_error_iff` — when there are settings, and what is
                                  complained about otherwise;
    * `load_exactly`            — what comes of all variables.
-/
import Mathlib.Data.List.TakeWhile
import DataAccess.Proofs.Query.Grammar
import DataAccess.Settings
import DataAccess.Text.Digits

namespace DataAccess

/-! ## §1. Trimming. -/

namespace Text

/-- Nothing but blanks. -/
def AllBlank (cs : List Char) : Prop := ∀ c ∈ cs, isBlank c = true

theorem allBlank_reverse {cs : List Char} : AllBlank cs.reverse ↔ AllBlank cs := by
  unfold AllBlank
  simp only [List.mem_reverse]

/-- Blanks before other characters are dropped, and nothing else. -/
theorem dropWhile_of_unbroken {before cs rest : List Char} (hbefore : AllBlank before)
    (hne : cs ≠ []) (hcs : ∀ c ∈ cs, isBlank c = false) :
    (before ++ (cs ++ rest)).dropWhile isBlank = cs ++ rest := by
  rw [List.dropWhile_append_of_pos hbefore]
  cases cs with
  | nil => exact absurd rfl hne
  | cons c cs => simp [hcs c List.mem_cons_self]

/-- Characters that are not blank are left when blanks around them are cut. -/
theorem trimChars_of_unbroken {before cs after : List Char} (hbefore : AllBlank before)
    (hafter : AllBlank after) (hne : cs ≠ []) (hcs : ∀ c ∈ cs, isBlank c = false) :
    trimChars (before ++ (cs ++ after)) = cs := by
  -- read from the other end, the blanks after them come first
  have hback : (after.reverse ++ (cs.reverse ++ [])).dropWhile isBlank = cs.reverse ++ [] :=
    dropWhile_of_unbroken (allBlank_reverse.mpr hafter) (by simpa using hne) (by simpa using hcs)
  rw [List.append_nil] at hback
  unfold trimChars
  rw [dropWhile_of_unbroken hbefore hne hcs, List.reverse_append, hback, List.reverse_reverse]

/-- **What is cut off a text is blank.** -/
theorem exists_trimmed (cs : List Char) :
    ∃ before after, cs = before ++ (trimChars cs ++ after) ∧ AllBlank before ∧ AllBlank after := by
  have hfront := List.takeWhile_append_dropWhile (p := isBlank) (l := cs)
  have hback := List.takeWhile_append_dropWhile (p := isBlank) (l := (cs.dropWhile isBlank).reverse)
  refine ⟨cs.takeWhile isBlank, ((cs.dropWhile isBlank).reverse.takeWhile isBlank).reverse, ?_,
    fun c hc => List.mem_takeWhile_imp hc, allBlank_reverse.mpr fun c hc =>
      List.mem_takeWhile_imp hc⟩
  unfold trimChars
  rw [← List.reverse_append, hback, List.reverse_reverse, hfront]

/-- Only blanks are trimmed to nothing. -/
theorem trimChars_eq_nil_iff {cs : List Char} : trimChars cs = [] ↔ AllBlank cs := by
  constructor
  · intro h
    obtain ⟨before, after, heq, hbefore, hafter⟩ := exists_trimmed cs
    rw [h, List.nil_append] at heq
    rw [heq]
    exact List.forall_mem_append.mpr ⟨hbefore, hafter⟩
  · intro h
    unfold trimChars
    rw [List.dropWhile_eq_nil_iff.mpr h]
    rfl

end Text

/-! ## §2. Numbers. -/

/-- A text writes a number: digits, maybe after a plus sign, and blanks around
them. -/
inductive Text.Writes (text : String) (n : Nat) : Prop where
  | intro {before sign digits after : List Char}
      (htext : text.toList = before ++ (sign ++ digits ++ after))
      (hbefore : AllBlank before) (hsign : sign = [] ∨ sign = ['+']) (hne : digits ≠ [])
      (hdigits : ∀ c ∈ digits, isDigit c = true) (hafter : AllBlank after)
      (hn : decimalValue digits = n)

/-- A sign and digits have no blank among them. -/
theorem Text.not_isBlank_of_written {sign digits : List Char} (hsign : sign = [] ∨ sign = ['+'])
    (hdigits : ∀ c ∈ digits, isDigit c = true) : ∀ c ∈ sign ++ digits, isBlank c = false := by
  refine List.forall_mem_append.mpr ⟨?_, fun c hc => ?_⟩
  · rcases hsign with rfl | rfl
    · exact List.forall_mem_nil _
    · exact List.forall_mem_singleton.mpr (by decide)
  · have hdigit := hdigits c hc
    simp only [isDigit, Bool.and_eq_true, decide_eq_true_eq] at hdigit
    have hlow : 48 ≤ c.toNat := hdigit.1
    have hhigh : c.toNat ≤ 57 := hdigit.2
    simp only [isBlank, Ranges.contains, blankRanges, List.any_cons, List.any_nil, Bool.or_false,
      Bool.or_eq_false_iff, Bool.and_eq_false_iff, decide_eq_false_iff_not]
    omega

namespace Settings

/-- Digits are read as the number that they write. -/
theorem digitsNumber?_eq_some_iff {cs : List Char} {n : Nat} :
    digitsNumber? cs = some n
      ↔ cs ≠ [] ∧ (∀ c ∈ cs, Text.isDigit c = true) ∧ Text.decimalValue cs = n := by
  have hdigit : ∀ c : Char, c.isDigit = Text.isDigit c := fun c => rfl
  unfold digitsNumber?
  by_cases hdigits : cs ≠ [] ∧ ∀ c ∈ cs, Text.isDigit c = true
  · have hread : (cs.isEmpty || !cs.all Char.isDigit) = false := by
      simpa [hdigit] using hdigits
    rw [if_neg (by simp [hread]), Option.some.injEq]
    exact ⟨fun h => ⟨hdigits.1, hdigits.2, h⟩, fun h => h.2.2⟩
  · have hread : (cs.isEmpty || !cs.all Char.isDigit) = true := by
      simp only [Bool.or_eq_true, Bool.not_eq_true', List.isEmpty_iff, List.all_eq_false, hdigit]
      by_cases hnil : cs = []
      · exact .inl hnil
      · right
        simpa [hnil] using hdigits
    rw [if_pos hread]
    exact ⟨nofun, fun h => absurd ⟨h.1, h.2.1⟩ hdigits⟩

theorem readNumber?_of_plus {bound : Nat} {text : String} {cs : List Char}
    (h : Text.trimChars text.toList = '+' :: cs) :
    readNumber? bound text = (digitsNumber? cs).filter fun n => decide (n < bound) := by
  unfold readNumber?
  rw [h]
  rfl

theorem readNumber?_of_no_plus {bound : Nat} {text : String}
    (h : (Text.trimChars text.toList).head? ≠ some '+') :
    readNumber? bound text
      = (digitsNumber? (Text.trimChars text.toList)).filter fun n => decide (n < bound) := by
  unfold readNumber?
  split
  · next cs heq => exact absurd (by rw [heq]; rfl) h
  · rfl

/-- **A text is read as the number that it writes**, if that is below the bound. -/
theorem readNumber?_eq_some_iff {bound n : Nat} {text : String} :
    readNumber? bound text = some n ↔ Text.Writes text n ∧ n < bound := by
  constructor
  · intro h
    obtain ⟨before, after, htext, hbefore, hafter⟩ := Text.exists_trimmed text.toList
    by_cases hplus : (Text.trimChars text.toList).head? = some '+'
    · obtain ⟨cs, hcs⟩ := List.head?_eq_some_iff.mp hplus
      rw [readNumber?_of_plus hcs, Option.filter_eq_some_iff] at h
      obtain ⟨hne, hdigits, hn⟩ := digitsNumber?_eq_some_iff.mp h.1
      rw [hcs, ← List.singleton_append] at htext
      exact ⟨.intro htext hbefore (.inr rfl) hne hdigits hafter hn, of_decide_eq_true h.2⟩
    · rw [readNumber?_of_no_plus hplus, Option.filter_eq_some_iff] at h
      obtain ⟨hne, hdigits, hn⟩ := digitsNumber?_eq_some_iff.mp h.1
      rw [← List.nil_append (Text.trimChars text.toList)] at htext
      exact ⟨.intro htext hbefore (.inl rfl) hne hdigits hafter hn, of_decide_eq_true h.2⟩
  · intro h
    obtain ⟨⟨htext, hbefore, hsign, hne, hdigits, hafter, hn⟩, hlt⟩ := h
    rw [← hn] at hlt ⊢
    -- trimming leaves the sign and the digits, and the sign is passed over
    have htrim := Text.trimChars_of_unbroken hbefore hafter
      (List.append_ne_nil_of_right_ne_nil _ hne) (Text.not_isBlank_of_written hsign hdigits)
    rw [← htext] at htrim
    have hread := digitsNumber?_eq_some_iff.mpr ⟨hne, hdigits, rfl⟩
    rcases hsign with rfl | rfl
    · rw [List.nil_append] at htrim
      rw [readNumber?_of_no_plus, htrim, hread, Option.filter_some, if_pos (decide_eq_true hlt)]
      rw [htrim]
      intro hplus
      exact absurd (hdigits '+' (List.mem_of_head? hplus)) (by decide)
    · rw [List.singleton_append] at htrim
      rw [readNumber?_of_plus htrim, hread, Option.filter_some, if_pos (decide_eq_true hlt)]

/-! ## §3. Variables. -/

/-- What a variable gives: nothing if it is not set or set to blanks, and its
text as it is otherwise. -/
inductive Gives (lookup : String → Option String) (name : String) : Option String → Prop where
  | nothing (h : ∀ text, lookup name = some text → Text.AllBlank text.toList) :
      Gives lookup name none
  | text {text : String} (hlookup : lookup name = some text) (h : ¬ Text.AllBlank text.toList) :
      Gives lookup name (some text)

variable {lookup : String → Option String}

theorem lookupSet_eq_iff {name : String} {given : Option String} :
    lookupSet lookup name = given ↔ Gives lookup name given := by
  have hset : ∀ text : String, (!(Text.trimChars text.toList).isEmpty) = true
      ↔ ¬ Text.AllBlank text.toList := by
    intro text
    rw [← Text.trimChars_eq_nil_iff]
    simp
  unfold lookupSet
  cases given with
  | none =>
    -- nothing is given by a variable that is not set, or set to blanks alone
    rw [Option.filter_eq_none_iff]
    constructor
    · intro h
      refine .nothing fun text htext => ?_
      exact Classical.not_not.mp fun hblank => h text htext ((hset text).mpr hblank)
    · intro h text htext hkept
      cases h with
      | nothing h => exact (hset text).mp hkept (h text htext)
  | some text =>
    rw [Option.filter_eq_some_iff, hset]
    constructor
    · intro h
      exact .text h.1 h.2
    · intro h
      cases h with
      | text hlookup h => exact ⟨hlookup, h⟩

end Settings

/-- A variable that has to be a number between two bounds. -/
structure NumberVariable where
  name : String
  low : Nat
  high : Nat

namespace NumberVariable

variable {x : NumberVariable} {lookup : String → Option String}

/-- A text writes a number that the variable may have. -/
def Accepts (x : NumberVariable) (text : String) (n : Nat) : Prop :=
  Text.Writes text n ∧ x.low ≤ n ∧ n ≤ x.high

/-- The variable is not set, is set to blanks, or writes a number that it may
have. -/
def IsWellFormed (x : NumberVariable) (lookup : String → Option String) : Prop :=
  (∀ text, lookup x.name = some text → Text.AllBlank text.toList)
    ∨ ∃ text n, lookup x.name = some text ∧ x.Accepts text n

/-- What a variable is read as: no number if it gives no text, and the number
that its text writes otherwise. -/
inductive ReadsAs (x : NumberVariable) (lookup : String → Option String) : Option Nat → Prop where
  | nothing (h : Settings.Gives lookup x.name none) : ReadsAs x lookup none
  | number {text : String} {n : Nat} (h : Settings.Gives lookup x.name (some text))
      (hn : x.Accepts text n) : ReadsAs x lookup (some n)

/-- The variable is refused: its text, which the error names as it is, does not
write a number that it may have. -/
def IsRefused (x : NumberVariable) (lookup : String → Option String) (e : SettingsError) : Prop :=
  ∃ text, Settings.Gives lookup x.name (some text) ∧ (∀ n, ¬ x.Accepts text n) ∧ e = ⟨x.name, text⟩

theorem accepts_iff {text : String} {size n : Nat} (hsize : size = x.high + 1) :
    x.Accepts text n ↔ Settings.readNumber? size text = some n ∧ x.low ≤ n := by
  rw [Settings.readNumber?_eq_some_iff, hsize, Nat.lt_succ_iff]
  unfold Accepts
  exact ⟨fun h => ⟨⟨h.1, h.2.2⟩, h.2.1⟩, fun h => ⟨h.1.1, h.2, h.1.2⟩⟩

/-- A text that writes a number is no blank. -/
theorem Accepts.not_allBlank {text : String} {n : Nat} (h : x.Accepts text n) :
    ¬ Text.AllBlank text.toList := by
  intro hblank
  cases h.1 with
  | @intro before sign digits after htext _ hsign hne hdigits _ _ =>
    -- there is a digit, at the least
    obtain ⟨c, digits, rfl⟩ := List.exists_cons_of_ne_nil hne
    have hc := Text.not_isBlank_of_written hsign hdigits c (by simp)
    rw [hblank c (by rw [htext]; simp)] at hc
    cases hc

theorem readsAs_iff {given : Option Nat} :
    x.ReadsAs lookup given
      ↔ Settings.lookupSet lookup x.name = none ∧ given = none
        ∨ ∃ text n, Settings.lookupSet lookup x.name = some text ∧ x.Accepts text n
          ∧ given = some n := by
  simp only [Settings.lookupSet_eq_iff]
  constructor
  · intro h
    cases h with
    | nothing h => exact .inl ⟨h, rfl⟩
    | number h hn => exact .inr ⟨_, _, h, hn, rfl⟩
  · intro h
    rcases h with ⟨h, rfl⟩ | ⟨text, n, h, hn, rfl⟩
    · exact .nothing h
    · exact .number h hn

/-- A variable is well-formed if it is read as something. -/
theorem exists_readsAs_iff : (∃ given, x.ReadsAs lookup given) ↔ x.IsWellFormed lookup := by
  constructor
  · intro h
    obtain ⟨_, h⟩ := h
    cases h with
    | nothing h =>
      cases h with
      | nothing h => exact .inl h
    | number h hn =>
      cases h with
      | text hlookup _ => exact .inr ⟨_, _, hlookup, hn⟩
  · intro h
    rcases h with h | ⟨text, n, hlookup, hn⟩
    · exact ⟨none, .nothing (.nothing h)⟩
    · exact ⟨some n, .number (.text hlookup hn.not_allBlank) hn⟩

/-- A function reads the texts of a variable, and makes something of their
numbers. -/
structure IsReadBy {β : Type} (x : NumberVariable) (read : String → Except SettingsError β)
    (f : Nat → β) : Prop where
  ok : ∀ text b, read text = .ok b ↔ ∃ n, x.Accepts text n ∧ f n = b
  error : ∀ text e, read text = .error e ↔ (∀ n, ¬ x.Accepts text n) ∧ e = ⟨x.name, text⟩

variable {β : Type} {read : String → Except SettingsError β} {f : Nat → β} {default b : β}
  {e : SettingsError}

/-- **What is made of a variable** is made of what it is read as. -/
theorem IsReadBy.elim_ok_iff (h : x.IsReadBy read f) :
    (Settings.lookupSet lookup x.name).elim (.ok default) read = .ok b
      ↔ ∃ given, x.ReadsAs lookup given ∧ given.elim default f = b := by
  simp only [readsAs_iff]
  cases Settings.lookupSet lookup x.name with
  | none => simp
  | some text => simp [h.ok]

/-- **An error is made of it** if it is refused. -/
theorem IsReadBy.elim_error_iff (h : x.IsReadBy read f) :
    (Settings.lookupSet lookup x.name).elim (.ok default) read = .error e
      ↔ x.IsRefused lookup e := by
  unfold IsRefused
  simp only [← Settings.lookupSet_eq_iff]
  cases Settings.lookupSet lookup x.name with
  | none => simp
  | some text => simp [h.error]

end NumberVariable

/-! ## §4. Settings. -/

namespace Settings

/-- The number of connections: from 1 to the greatest of 32 bits. -/
def connectionsVariable : NumberVariable := ⟨sqlMaxConnectionsName, 1, 4294967295⟩

/-- The life span in seconds: up to the greatest number of 64 bits. -/
def lifeSpanVariable : NumberVariable := ⟨cacheTtlName, 0, 18446744073709551615⟩

/-- A number of connections is taken as it is. -/
theorem isReadBy_connections : connectionsVariable.IsReadBy readConnections id := by
  have haccepts : ∀ text n, connectionsVariable.Accepts text n
      ↔ readNumber? UInt32.size text = some n ∧ 1 ≤ n :=
    fun text n => NumberVariable.accepts_iff rfl
  constructor
  · intro text b
    simp only [haccepts, readConnections]
    cases readNumber? UInt32.size text with
    | none => simp
    | some n =>
      -- zero is refused after it is read
      cases n with
      | zero =>
        simp
        omega
      | succ n =>
        simp
        omega
  · intro text e
    simp only [haccepts, readConnections]
    cases readNumber? UInt32.size text with
    | none => simp [connectionsVariable, eq_comm]
    | some n =>
      cases n with
      | zero => simp [connectionsVariable, eq_comm]
      | succ n => simp

/-- A life span of zero is none. -/
theorem isReadBy_lifeSpan :
    lifeSpanVariable.IsReadBy readTtl fun n => if n = 0 then none else some n := by
  have haccepts : ∀ text n, lifeSpanVariable.Accepts text n
      ↔ readNumber? UInt64.size text = some n ∧ 0 ≤ n :=
    fun text n => NumberVariable.accepts_iff rfl
  constructor
  · intro text b
    simp only [haccepts, readTtl]
    cases readNumber? UInt64.size text with
    | none => simp
    | some n => cases n <;> simp
  · intro text e
    simp only [haccepts, readTtl]
    cases readNumber? UInt64.size text with
    | none => simp [lifeSpanVariable, eq_comm]
    | some n => cases n <;> simp

/-- Settings as variables give them. -/
structure ReadFrom (lookup : String → Option String) (s : Settings) : Prop where
  sqlDsn : Gives lookup sqlDsnName s.sqlDsn
  documentUri : Gives lookup documentUriName s.documentUri
  cacheUri : Gives lookup cacheUriName s.cacheUri
  searchUri : Gives lookup searchUriName s.searchUri
  /-- Ten connections if no number is given. -/
  connections : ∃ given, connectionsVariable.ReadsAs lookup given
    ∧ s.sqlMaxConnections = given.getD 10
  /-- No life span if no number is given, or zero. -/
  lifeSpan : ∃ given, lifeSpanVariable.ReadsAs lookup given
    ∧ s.cacheDefaultTtl = given.filter fun n => n ≠ 0

/-- The two numbers are read one after the other. -/
theorem load_eq (lookup : String → Option String) :
    load lookup
      = (lookupSet lookup sqlMaxConnectionsName).elim (.ok default.sqlMaxConnections)
          readConnections >>= fun connections =>
        (lookupSet lookup cacheTtlName).elim (.ok default.cacheDefaultTtl) readTtl >>= fun ttl =>
        .ok ⟨lookupSet lookup sqlDsnName, lookupSet lookup documentUriName,
          lookupSet lookup cacheUriName, lookupSet lookup searchUriName, connections, ttl⟩ := by
  unfold load
  cases lookupSet lookup sqlMaxConnectionsName with
  | none => cases lookupSet lookup cacheTtlName <;> rfl
  | some connections => cases lookupSet lookup cacheTtlName <;> rfl

/-- The number of connections that is made of its variable. -/
theorem connections_ok_iff {k : Nat} :
    (lookupSet lookup sqlMaxConnectionsName).elim (.ok default.sqlMaxConnections)
        readConnections = .ok k
      ↔ ∃ given, connectionsVariable.ReadsAs lookup given ∧ k = given.getD 10 := by
  refine isReadBy_connections.elim_ok_iff.trans (exists_congr fun given => and_congr_right' ?_)
  cases given with
  | none => exact eq_comm
  | some n => exact eq_comm

/-- The life span that is made of its variable. -/
theorem lifeSpan_ok_iff {ttl : Option Nat} :
    (lookupSet lookup cacheTtlName).elim (.ok default.cacheDefaultTtl) readTtl = .ok ttl
      ↔ ∃ given, lifeSpanVariable.ReadsAs lookup given ∧ ttl = given.filter fun n => n ≠ 0 := by
  refine isReadBy_lifeSpan.elim_ok_iff.trans (exists_congr fun given => and_congr_right' ?_)
  cases given with
  | none => exact eq_comm
  | some n =>
    rw [Option.elim_some, Option.filter_some, eq_comm]
    by_cases hn : n = 0
    · simp [hn]
    · simp [hn]

/-- Settings are made of the numbers that their variables are read as. -/
theorem readFrom_of_readsAs {connections seconds : Option Nat}
    (hconnections : connectionsVariable.ReadsAs lookup connections)
    (hseconds : lifeSpanVariable.ReadsAs lookup seconds) :
    ReadFrom lookup ⟨lookupSet lookup sqlDsnName, lookupSet lookup documentUriName,
      lookupSet lookup cacheUriName, lookupSet lookup searchUriName, connections.getD 10,
      seconds.filter fun n => n ≠ 0⟩ where
  sqlDsn := lookupSet_eq_iff.mp rfl
  documentUri := lookupSet_eq_iff.mp rfl
  cacheUri := lookupSet_eq_iff.mp rfl
  searchUri := lookupSet_eq_iff.mp rfl
  connections := ⟨connections, hconnections, rfl⟩
  lifeSpan := ⟨seconds, hseconds, rfl⟩

/-- **Settings are made of what the variables give**, and of that alone. -/
theorem load_ok_iff {s : Settings} : load lookup = .ok s ↔ s.ReadFrom lookup := by
  rw [load_eq]
  constructor
  · intro h
    obtain ⟨k, hk, h⟩ := bind_ok_iff.mp h
    obtain ⟨ttl, httl, h⟩ := bind_ok_iff.mp h
    obtain ⟨connections, hconnections, rfl⟩ := connections_ok_iff.mp hk
    obtain ⟨seconds, hseconds, rfl⟩ := lifeSpan_ok_iff.mp httl
    cases h
    exact readFrom_of_readsAs hconnections hseconds
  · intro h
    refine bind_ok_iff.mpr ⟨s.sqlMaxConnections, connections_ok_iff.mpr h.connections, ?_⟩
    refine bind_ok_iff.mpr ⟨s.cacheDefaultTtl, lifeSpan_ok_iff.mpr h.lifeSpan, ?_⟩
    rw [lookupSet_eq_iff.mpr h.sqlDsn, lookupSet_eq_iff.mpr h.documentUri,
      lookupSet_eq_iff.mpr h.cacheUri, lookupSet_eq_iff.mpr h.searchUri]

/-- Settings are made if both numbers are well-formed. -/
theorem exists_load_iff :
    (∃ s, load lookup = .ok s)
      ↔ connectionsVariable.IsWellFormed lookup ∧ lifeSpanVariable.IsWellFormed lookup := by
  simp only [load_ok_iff, ← NumberVariable.exists_readsAs_iff]
  constructor
  · intro h
    obtain ⟨s, h⟩ := h
    obtain ⟨connections, hconnections, -⟩ := h.connections
    obtain ⟨seconds, hseconds, -⟩ := h.lifeSpan
    exact ⟨⟨connections, hconnections⟩, ⟨seconds, hseconds⟩⟩
  · intro h
    obtain ⟨⟨connections, hconnections⟩, ⟨seconds, hseconds⟩⟩ := h
    exact ⟨_, readFrom_of_readsAs hconnections hseconds⟩

/-- **The first variable at fault is named**, the number of connections before
the life span. -/
theorem load_error_iff {e : SettingsError} :
    load lookup = .error e
      ↔ connectionsVariable.IsRefused lookup e
        ∨ connectionsVariable.IsWellFormed lookup ∧ lifeSpanVariable.IsRefused lookup e := by
  rw [load_eq, bind_error_iff]
  refine or_congr isReadBy_connections.elim_error_iff ?_
  rw [← NumberVariable.exists_readsAs_iff]
  constructor
  · intro h
    obtain ⟨k, hk, h⟩ := h
    obtain ⟨connections, hconnections, -⟩ := connections_ok_iff.mp hk
    rcases bind_error_iff.mp h with httl | ⟨ttl, -, h⟩
    · exact ⟨⟨connections, hconnections⟩, isReadBy_lifeSpan.elim_error_iff.mp httl⟩
    · cases h
  · intro h
    obtain ⟨⟨connections, hconnections⟩, hrefused⟩ := h
    refine ⟨_, connections_ok_iff.mpr ⟨connections, hconnections, rfl⟩, ?_⟩
    exact bind_error_iff.mpr (.inl (isReadBy_lifeSpan.elim_error_iff.mpr hrefused))

/-- **WHAT COMES OF ALL VARIABLES.**

  * Settings are made if and only if each of the two variables that have to be
    numbers is not set, is set to blanks, or writes a number that it may have.
  * They hold what the variables give: the texts of the connections as they are,
    and the two numbers or what stands for them.
  * Otherwise the number of connections is named with its text if it is refused,
    and else the life span. -/
theorem load_exactly (lookup : String → Option String) :
    ((∃ s, load lookup = .ok s)
        ↔ connectionsVariable.IsWellFormed lookup ∧ lifeSpanVariable.IsWellFormed lookup)
      ∧ (∀ s, load lookup = .ok s ↔ s.ReadFrom lookup)
      ∧ ∀ e, load lookup = .error e
        ↔ connectionsVariable.IsRefused lookup e
          ∨ connectionsVariable.IsWellFormed lookup ∧ lifeSpanVariable.IsRefused lookup e :=
  ⟨exists_load_iff, fun _ => load_ok_iff, fun _ => load_error_iff⟩

-- A sign, leading zeros and blanks are no part of a number, and no seconds are
-- no life span.
example : load (fun name => if name = sqlMaxConnectionsName then some "\t+007 "
    else if name = cacheTtlName then some "0" else none)
      = .ok { default with sqlMaxConnections := 7 } := by decide

end Settings

end DataAccess
