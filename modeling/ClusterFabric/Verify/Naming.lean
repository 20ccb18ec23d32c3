import ClusterFabric.Model.Naming

/-! # Counter texts and boot identities

A counter's text is read back exactly: a step of the reading loop appends one digit to
the numeral unless it is no digit or the value leaves 64 bits, and the value only grows,
so the whole text is refused exactly when its value is too large (`counter_text_exact`).

A boot identity is a prefix followed by three numerals. The numerals contain no dash, so
each of them is what follows the last dash of what is left, however the prefix was cut
(`boot_identity_valid_distinct`).
-/

namespace ClusterFabric

open Lib

variable {c : UInt8} {a : Text} {value : UInt64} {d : Nat}

/-! ## Counters -/

def isDecimalDigit (c : UInt8) : Bool := 48 ≤ c && c ≤ 57

def digitValue (c : UInt8) : Nat := c.toNat - 48

/-- The value of a text as a decimal numeral, read after `n`. -/
def numeralFrom (n : Nat) (text : Text) : Nat := Digits.readFrom 10 n (text.map digitValue)

theorem numeralFrom_cons (n : Nat) (c : UInt8) (rest : Text) :
    numeralFrom n (c :: rest) = numeralFrom (n * 10 + digitValue c) rest := by
  rw [numeralFrom, List.map_cons, Digits.readFrom_cons, numeralFrom]

theorem le_numeralFrom (n : Nat) (text : Text) : n ≤ numeralFrom n text :=
  Digits.le_readFrom (by omega) n _

theorem isDecimalDigit_iff (c : UInt8) :
    isDecimalDigit c = true ↔ 48 ≤ c.toNat ∧ c.toNat ≤ 57 := by
  simp [isDecimalDigit, UInt8.le_iff_toNat_le]

theorem parseCounterDigit_eq (value : UInt64) (c : UInt8) :
    parseCounterDigit value c =
      if isDecimalDigit c = true ∧ value.toNat * 10 + digitValue c < 2 ^ 64 then
        some (UInt64.ofNat (value.toNat * 10 + digitValue c))
      else none := by
  have hvalue := value.toNat_lt
  unfold parseCounterDigit
  by_cases hc : isDecimalDigit c = true
  · have hrange := (isDecimalDigit_iff c).mp hc
    have hlow : (48 : UInt8) ≤ c := UInt8.le_iff_toNat_le.mpr hrange.1
    have hdigit : ((c - 48).toUInt64).toNat = digitValue c := by
      rw [UInt8.toNat_toUInt64, UInt8.toNat_sub_of_le _ _ hlow]
      rfl
    have hnot : (c < 48 || 57 < c) = false := by
      simp only [Bool.or_eq_false_iff, decide_eq_false_iff_not, UInt8.lt_iff_toNat_lt, not_lt]
      exact hrange
    have hle : (c - 48).toUInt64 ≤ 0xFFFFFFFFFFFFFFFF := by
      rw [UInt64.le_iff_toNat_le, hdigit]
      exact le_trans (Nat.sub_le _ _) (le_trans hrange.2 (by decide))
    have hguard : (0xFFFFFFFFFFFFFFFF - (c - 48).toUInt64) / 10 < value ↔
        ¬ value.toNat * 10 + digitValue c < 2 ^ 64 := by
      rw [UInt64.lt_iff_toNat_lt, UInt64.toNat_div, UInt64.toNat_sub_of_le _ _ hle, hdigit]
      change (2 ^ 64 - 1 - digitValue c) / 10 < value.toNat ↔ _
      have hsmall : digitValue c ≤ 9 := Nat.sub_le_of_le_add hrange.2
      omega
    simp only [hnot, Bool.false_eq_true, if_false, hguard, hc, true_and]
    by_cases hfits : value.toNat * 10 + digitValue c < 2 ^ 64
    · rw [if_neg (not_not.mpr hfits), if_pos hfits]
      congr 1
      apply UInt64.toNat_inj.mp
      rw [UInt64.toNat_add, UInt64.toNat_mul, hdigit, UInt64.toNat_ofNat']
      change (value.toNat * 10 % 2 ^ 64 + digitValue c) % 2 ^ 64 = _
      omega
    · rw [if_pos hfits, if_neg hfits]
  · have hout : (c < 48 || 57 < c) = true := by
      rw [isDecimalDigit_iff] at hc
      simp only [Bool.or_eq_true, decide_eq_true_eq, UInt8.lt_iff_toNat_lt]
      change c.toNat < 48 ∨ 57 < c.toNat
      omega
    rw [if_pos hout, if_neg fun h => hc h.1]

/-- The loop yields the numeral, unless a character is no digit or the numeral does
not fit. -/
theorem foldlM_parseCounterDigit (text : Text) (value : UInt64) :
    text.foldlM parseCounterDigit value =
      if (∀ c ∈ text, isDecimalDigit c = true) ∧ numeralFrom value.toNat text < 2 ^ 64 then
        some (UInt64.ofNat (numeralFrom value.toNat text))
      else none := by
  induction text generalizing value with
  | nil =>
    have hvalue := value.toNat_lt
    simp [numeralFrom, hvalue]
  | cons c rest ih =>
    rw [List.foldlM_cons, parseCounterDigit_eq, numeralFrom_cons]
    have hgrows := le_numeralFrom (value.toNat * 10 + digitValue c) rest
    by_cases hstep : isDecimalDigit c = true ∧ value.toNat * 10 + digitValue c < 2 ^ 64
    · have hnext : (UInt64.ofNat (value.toNat * 10 + digitValue c)).toNat =
          value.toNat * 10 + digitValue c := by
        rw [UInt64.toNat_ofNat', Nat.mod_eq_of_lt hstep.2]
      rw [if_pos hstep]
      change rest.foldlM parseCounterDigit _ = _
      rw [ih, hnext]
      simp only [List.forall_mem_cons, hstep.1, true_and]
    · have hfail : ¬((∀ d ∈ c :: rest, isDecimalDigit d = true) ∧
          numeralFrom (value.toNat * 10 + digitValue c) rest < 2 ^ 64) := by
        rintro ⟨hall, hfits⟩
        exact hstep ⟨hall c (List.mem_cons_self ..), lt_of_le_of_lt hgrows hfits⟩
      rw [if_neg hstep, if_neg hfail]
      rfl

theorem isDecimalDigit_decimalChar (hd : d < 10) : isDecimalDigit (decimalChar d) = true := by
  have h : ∀ d < 10, isDecimalDigit (decimalChar d) = true := by decide
  exact h d hd

theorem digitValue_decimalChar (hd : d < 10) : digitValue (decimalChar d) = d := by
  have h : ∀ d < 10, digitValue (decimalChar d) = d := by decide
  exact h d hd

theorem numeralFrom_renderCounter (value : UInt64) :
    numeralFrom 0 (renderCounter value) = value.toNat := by
  have hfits : value.toNat < 10 ^ 20 := lt_trans value.toNat_lt (by decide)
  rw [numeralFrom, renderCounter, List.map_reverse, maxCounterDigits,
    Digits.map_map_low (by decide) fun _ => digitValue_decimalChar, Digits.readFrom_reverse,
    Digits.ofDigits_low (by decide) hfits]

theorem renderCounter_spec (value : UInt64) :
    renderCounter value ≠ [] ∧ (renderCounter value).length ≤ maxCounterDigits ∧
      ∀ c ∈ renderCounter value, isDecimalDigit c = true := by
  refine ⟨?_, ?_, ?_⟩
  · intro hnil
    rw [renderCounter, List.reverse_eq_nil_iff, List.map_eq_nil_iff] at hnil
    exact Digits.low_ne_nil (by decide) _ hnil
  · rw [renderCounter, List.length_reverse, List.length_map]
    exact Digits.length_low_le _ _
  · intro c hc
    rw [renderCounter, List.mem_reverse, List.mem_map] at hc
    obtain ⟨d, hd, rfl⟩ := hc
    exact isDecimalDigit_decimalChar (Digits.lt_of_mem_low (by decide) hd)

theorem parseCounterText_eq (text : Text) (allowZero : Bool) :
    parseCounterText text allowZero =
      if text ≠ [] ∧ text.length ≤ maxCounterDigits ∧
          (∀ c ∈ text, isDecimalDigit c = true) ∧ numeralFrom 0 text ≤ 2 ^ 64 - 1 ∧
          (numeralFrom 0 text ≠ 0 ∨ allowZero = true) then
        some (UInt64.ofNat (numeralFrom 0 text))
      else none := by
  unfold parseCounterText
  by_cases hempty : text = []
  · simp [hempty]
  have hisEmpty : text.isEmpty = false := by simpa using hempty
  by_cases hlong : maxCounterDigits < text.length
  · simp [hisEmpty, hlong]
  have hloop := foldlM_parseCounterDigit text 0
  rw [show (0 : UInt64).toNat = 0 from rfl] at hloop
  rw [hisEmpty, if_neg Bool.false_ne_true, if_neg hlong, hloop]
  by_cases hgood : (∀ c ∈ text, isDecimalDigit c = true) ∧ numeralFrom 0 text < 2 ^ 64
  · have hle : numeralFrom 0 text ≤ 2 ^ 64 - 1 := by omega
    have hzero : (UInt64.ofNat (numeralFrom 0 text) == 0) = true ↔ numeralFrom 0 text = 0 := by
      rw [beq_iff_eq, ← UInt64.toNat_inj, UInt64.toNat_ofNat', Nat.mod_eq_of_lt hgood.2]
      rfl
    rw [if_pos hgood]
    by_cases hvalue : numeralFrom 0 text ≠ 0 ∨ allowZero = true
    · rw [if_pos ⟨hempty, not_lt.mp hlong, hgood.1, hle, hvalue⟩]
      refine if_neg ?_
      rw [Bool.and_eq_true, hzero, Bool.not_eq_true']
      rintro ⟨hz, hflag⟩
      exact hvalue.elim (fun h => h hz) fun h => Bool.false_ne_true (hflag.symm.trans h)
    · rw [if_neg fun h => hvalue h.2.2.2.2]
      rw [not_or, not_not, Bool.not_eq_true] at hvalue
      refine if_pos ?_
      rw [Bool.and_eq_true, hzero, Bool.not_eq_true']
      exact hvalue
  · rw [if_neg hgood, if_neg fun h => hgood ⟨h.2.2.1, by omega⟩]

/-- A text is read exactly when it is a numeral of one to twenty digits that fits into
64 bits, and not zero unless zero is allowed; the value is the numeral's. Every counter's
text is read back. -/
theorem counter_text_exact (allowZero : Bool) :
    (∀ text : Text, parseCounterText text allowZero =
      if text ≠ [] ∧ text.length ≤ 20 ∧ (∀ c ∈ text, isDecimalDigit c = true) ∧
          numeralFrom 0 text ≤ 2 ^ 64 - 1 ∧ (numeralFrom 0 text ≠ 0 ∨ allowZero = true) then
        some (UInt64.ofNat (numeralFrom 0 text))
      else none) ∧
    ∀ value : UInt64, parseCounterText (renderCounter value) allowZero =
      if value ≠ 0 ∨ allowZero = true then some value else none := by
  refine ⟨fun text => parseCounterText_eq text allowZero, fun value => ?_⟩
  obtain ⟨hne, hlength, hdigits⟩ := renderCounter_spec value
  have hle : value.toNat ≤ 2 ^ 64 - 1 := Nat.le_sub_one_of_lt value.toNat_lt
  have hzero : value.toNat ≠ 0 ↔ value ≠ 0 := by
    rw [ne_eq, ne_eq, ← UInt64.toNat_inj]
    rfl
  rw [parseCounterText_eq, numeralFrom_renderCounter, UInt64.ofNat_toNat]
  refine if_congr ⟨fun h => ?_, fun h => ?_⟩ rfl rfl
  · exact h.2.2.2.2.imp_left hzero.mp
  · exact ⟨hne, hlength, hdigits, hle, h.imp_left hzero.mpr⟩

/-! ## Valid identities -/

theorem isOk_validateIdentity_iff (value : Text) :
    (validateIdentity value).isOk = true ↔
      value ≠ [] ∧ value.length ≤ maxIdentityLength ∧ (∀ c ∈ value, isIdentityChar c = true) ∧
        ¬(value = text "." ∨ value = text "..") ∧ findDoubleDot value = none := by
  unfold validateIdentity IdentityValidation.isOk
  by_cases hempty : value = []
  · simp [hempty]
  have hisEmpty : value.isEmpty = false := by simpa using hempty
  by_cases hlong : maxIdentityLength < value.length
  · simp [hisEmpty, hlong]
  rw [hisEmpty, if_neg Bool.false_ne_true, if_neg hlong]
  cases hchar : value.findIdx? fun c => !isIdentityChar c with
  | some i =>
    have hbad : ¬∀ c ∈ value, isIdentityChar c = true := by
      intro hall
      rw [List.findIdx?_eq_none_iff.mpr fun c hc => by rw [hall c hc]; rfl] at hchar
      cases hchar
    simp [hbad]
  | none =>
    have hall : ∀ c ∈ value, isIdentityChar c = true := by
      intro c hc
      simpa using List.findIdx?_eq_none_iff.mp hchar c hc
    by_cases hdots : value = text "." ∨ value = text ".."
    · simp [hdots]
    · rw [if_neg hdots]
      cases hfind : findDoubleDot value with
      | some i => simp
      | none => exact ⟨fun _ => ⟨hempty, not_lt.mp hlong, hall, hdots, rfl⟩, fun _ => rfl⟩

theorem findDoubleDot_of_append {b : Text} (h : findDoubleDot (a ++ b) = none) :
    findDoubleDot a = none := by
  induction a with
  | nil => rfl
  | cons x a ih =>
    cases a with
    | nil => rfl
    | cons y a =>
      rw [List.cons_append, List.cons_append, findDoubleDot] at h
      rw [findDoubleDot]
      split_ifs at h ⊢ with hdots
      rw [Option.map_eq_none_iff] at h ⊢
      exact ih h

/-- Text without dots brings no double dot with it. -/
theorem findDoubleDot_append {b : Text} (ha : findDoubleDot a = none) (hb : 46 ∉ b) :
    findDoubleDot (a ++ b) = none := by
  have hfree : ∀ {b : Text}, 46 ∉ b → findDoubleDot b = none := by
    intro b hb
    induction b with
    | nil => rfl
    | cons x b ih =>
      cases b with
      | nil => rfl
      | cons y b =>
        have hx : (x == 46) = false := by
          simpa using fun heq : x = 46 => hb (heq ▸ List.mem_cons_self ..)
        rw [findDoubleDot, hx, Bool.false_and, if_neg Bool.false_ne_true,
          ih fun hy => hb (List.mem_cons_of_mem x hy)]
        rfl
  induction a with
  | nil => exact hfree hb
  | cons x a ih =>
    cases a with
    | nil =>
      cases b with
      | nil => rfl
      | cons y b =>
        have hy : (y == 46) = false := by
          simpa using fun heq : y = 46 => hb (heq ▸ List.mem_cons_self ..)
        rw [List.singleton_append, findDoubleDot, hy, Bool.and_false,
          if_neg Bool.false_ne_true, hfree hb]
        rfl
    | cons y a =>
      rw [findDoubleDot] at ha
      rw [List.cons_append, List.cons_append, findDoubleDot]
      split_ifs at ha ⊢ with hdots
      rw [Option.map_eq_none_iff] at ha ⊢
      exact ih ha

/-! ## Boot identities -/

/-- A character of a numeral: valid in an identity, and neither a dash nor a dot. -/
def isNumeralChar (c : UInt8) : Bool := isIdentityChar c && c != 45 && c != 46

theorem isNumeralChar_decimalChar (hd : d < 10) : isNumeralChar (decimalChar d) = true := by
  have h : ∀ d < 10, isNumeralChar (decimalChar d) = true := by decide
  exact h d hd

def hexValue (c : UInt8) : Nat := (text "0123456789abcdef").idxOf c

theorem hexChar_spec : ∀ d < 16, isNumeralChar (hexChar d) = true ∧ hexValue (hexChar d) = d := by
  decide +kernel

theorem isNumeralChar_of_mem {base size n : Nat} {char : Nat → UInt8} (hbase : 0 < base)
    (hchar : ∀ d < base, isNumeralChar (char d) = true)
    (hc : c ∈ ((Digits.low base size n).map char).reverse) : isNumeralChar c = true := by
  rw [List.mem_reverse, List.mem_map] at hc
  obtain ⟨d, hd, rfl⟩ := hc
  exact hchar d (Digits.lt_of_mem_low hbase hd)

/-- The three numerals of a boot identity, as they are appended. -/
def decimalText (value : UInt64) : Text :=
  ((Digits.low 10 20 value.toNat).map decimalChar).reverse

def hexText (value : UInt64) : Text := ((Digits.low 16 16 value.toNat).map hexChar).reverse

theorem isNumeralChar_decimalText (hc : c ∈ decimalText value) : isNumeralChar c = true :=
  isNumeralChar_of_mem (by decide) (fun _ => isNumeralChar_decimalChar) hc

theorem isNumeralChar_hexText (hc : c ∈ hexText value) : isNumeralChar c = true :=
  isNumeralChar_of_mem (by decide) (fun d hd => (hexChar_spec d hd).1) hc

theorem decimalText_injective {v w : UInt64} (h : decimalText v = decimalText w) : v = w := by
  have hbound : 2 ^ 64 ≤ 10 ^ 20 := by decide
  apply UInt64.toNat_inj.mp
  exact Digits.map_low_injective (by decide) (fun _ => digitValue_decimalChar) (by decide)
    (lt_of_lt_of_le v.toNat_lt hbound) (lt_of_lt_of_le w.toNat_lt hbound)
    (List.reverse_injective h)

theorem hexText_injective {v w : UInt64} (h : hexText v = hexText w) : v = w := by
  have hbound : 2 ^ 64 ≤ 16 ^ 16 := by decide
  apply UInt64.toNat_inj.mp
  exact Digits.map_low_injective (by decide) (fun d hd => (hexChar_spec d hd).2) (by decide)
    (lt_of_lt_of_le v.toNat_lt hbound) (lt_of_lt_of_le w.toNat_lt hbound)
    (List.reverse_injective h)

theorem not_mem_of_isNumeralChar {value : Text} (h : ∀ c ∈ value, isNumeralChar c = true) :
    45 ∉ value ∧ 46 ∉ value := by
  constructor
  · intro hmem
    exact absurd (h 45 hmem) (by decide)
  · intro hmem
    exact absurd (h 46 hmem) (by decide)

/-- The part of a boot identity after its prefix. -/
def bootSuffix (pid sequence mix : UInt64) : Text :=
  45 :: decimalText pid ++ 45 :: decimalText sequence ++ 45 :: hexText mix

theorem compose_eq (prefixText : Text) (pid sequence mix : UInt64) :
    compose prefixText pid sequence mix =
      prefixText.take (keptPrefix prefixText.length (suffixLength pid sequence mix)) ++
        bootSuffix pid sequence mix := by
  simp [compose, appendDecimal, appendHex, bootSuffix, decimalText, hexText]

/-- The numerals of two boot identities agree if the texts do, whatever stands in front. -/
theorem bootSuffix_injective {a' : Text} {pid pid' sequence sequence' mix mix' : UInt64}
    (h : a ++ bootSuffix pid sequence mix = a' ++ bootSuffix pid' sequence' mix') :
    pid = pid' ∧ sequence = sequence' ∧ mix = mix' := by
  have hdecimal : ∀ v, 45 ∉ decimalText v := fun v =>
    (not_mem_of_isNumeralChar fun _ => isNumeralChar_decimalText).1
  have hhex : ∀ v, 45 ∉ hexText v := fun v =>
    (not_mem_of_isNumeralChar fun _ => isNumeralChar_hexText).1
  have hlast : (a ++ 45 :: decimalText pid ++ 45 :: decimalText sequence) ++ 45 :: hexText mix =
      (a' ++ 45 :: decimalText pid' ++ 45 :: decimalText sequence') ++ 45 :: hexText mix' := by
    simpa [bootSuffix] using h
  obtain ⟨hmiddle, hmix⟩ := Digits.last_part_eq (hhex _) (hhex _) hlast
  obtain ⟨hfirst, hsequence⟩ := Digits.last_part_eq (hdecimal _) (hdecimal _) hmiddle
  obtain ⟨-, hpid⟩ := Digits.last_part_eq (hdecimal _) (hdecimal _) hfirst
  exact ⟨decimalText_injective hpid, decimalText_injective hsequence, hexText_injective hmix⟩

theorem length_bootSuffix (pid sequence mix : UInt64) :
    (bootSuffix pid sequence mix).length = suffixLength pid sequence mix := by
  have hdecimal : ∀ v : UInt64, (decimalText v).length = decimalDigits v := by
    intro v
    have hfits : v.toNat < 10 ^ (19 + 1) := lt_trans v.toNat_lt (by decide)
    rw [decimalText, List.length_reverse, List.length_map, decimalDigits,
      Digits.count_eq (by decide) hfits]
  have hhex : ∀ v : UInt64, (hexText v).length = hexDigits v := by
    intro v
    have hfits : v.toNat < 16 ^ (15 + 1) := lt_of_lt_of_le v.toNat_lt (by decide)
    rw [hexText, List.length_reverse, List.length_map, hexDigits,
      Digits.count_eq (by decide) hfits]
  simp only [bootSuffix, List.length_append, List.length_cons, hdecimal, hhex, suffixLength]
  omega

theorem suffixLength_le (pid sequence mix : UInt64) : suffixLength pid sequence mix ≤ 59 := by
  have hpid := @Digits.length_low_le 10 20 pid.toNat
  have hsequence := @Digits.length_low_le 10 20 sequence.toNat
  have hmix := @Digits.length_low_le 16 16 mix.toNat
  rw [← length_bootSuffix]
  simp only [bootSuffix, decimalText, hexText, List.length_append, List.length_cons,
    List.length_reverse, List.length_map]
  omega

/-- The numerals and their dashes are characters of an identity, without a dot. -/
theorem bootSuffix_chars (pid sequence mix : UInt64) :
    (∀ c ∈ bootSuffix pid sequence mix, isIdentityChar c = true) ∧
      46 ∉ bootSuffix pid sequence mix := by
  have hmem : ∀ c ∈ bootSuffix pid sequence mix, c = 45 ∨ isNumeralChar c = true := by
    intro c hc
    simp only [bootSuffix, List.cons_append, List.mem_cons, List.mem_append] at hc
    obtain rfl | (hc | rfl | hc) | rfl | hc := hc
    · exact .inl rfl
    · exact .inr (isNumeralChar_decimalText hc)
    · exact .inl rfl
    · exact .inr (isNumeralChar_decimalText hc)
    · exact .inl rfl
    · exact .inr (isNumeralChar_hexText hc)
  constructor
  · intro c hc
    obtain rfl | hnumeral := hmem c hc
    · decide
    · simp only [isNumeralChar, Bool.and_eq_true] at hnumeral
      exact hnumeral.1.1
  · intro hdot
    exact absurd (hmem 46 hdot) (by decide)

theorem validateIdentity_compose {prefixText : Text}
    (h : (validateIdentity prefixText).isOk = true) (pid sequence mix : UInt64) :
    (validateIdentity (compose prefixText pid sequence mix)).isOk = true := by
  obtain ⟨-, -, hchars, -, hdots⟩ := (isOk_validateIdentity_iff prefixText).mp h
  obtain ⟨hsuffix, hnodot⟩ := bootSuffix_chars pid sequence mix
  have hlength := length_bootSuffix pid sequence mix
  have hbound := suffixLength_le pid sequence mix
  have hthree : 3 ≤ suffixLength pid sequence mix := by
    rw [suffixLength]
    omega
  rw [compose_eq, isOk_validateIdentity_iff]
  set kept := prefixText.take (keptPrefix prefixText.length (suffixLength pid sequence mix))
    with hkept
  have htotal : (kept ++ bootSuffix pid sequence mix).length ≤ maxIdentityLength := by
    rw [List.length_append, hlength, hkept, List.length_take, keptPrefix, maxIdentityLength]
    split_ifs <;> omega
  have hlong : 3 ≤ (kept ++ bootSuffix pid sequence mix).length := by
    rw [List.length_append, hlength]
    omega
  refine ⟨?_, htotal, ?_, ?_, ?_⟩
  · intro hnil
    rw [hnil] at hlong
    exact absurd hlong (by decide)
  · intro c hc
    rw [List.mem_append] at hc
    obtain hc | hc := hc
    · exact hchars c (List.mem_of_mem_take hc)
    · exact hsuffix c hc
  · have hshort : (text ".").length < 3 ∧ (text "..").length < 3 := by decide +kernel
    rintro (heq | heq)
    · rw [heq] at hlong
      exact absurd hshort.1 (not_lt.mpr hlong)
    · rw [heq] at hlong
      exact absurd hshort.2 (not_lt.mpr hlong)
  · refine findDoubleDot_append ?_ hnodot
    rw [← List.take_append_drop
      (keptPrefix prefixText.length (suffixLength pid sequence mix)) prefixText] at hdots
    exact findDoubleDot_of_append hdots

theorem validateIdentity_fallbackPrefix : (validateIdentity fallbackPrefix).isOk = true := by
  decide +kernel

/-- The fallback without a prefix is never taken. -/
theorem makeBootIdText_eq (prefixText : Text) (pid sequence mix : UInt64) :
    ∃ safePrefix, (validateIdentity safePrefix).isOk = true ∧
      makeBootIdText prefixText pid sequence mix = compose safePrefix pid sequence mix := by
  obtain ⟨safePrefix, hsafe, heq⟩ : ∃ safePrefix, (validateIdentity safePrefix).isOk = true ∧
      (if (validateIdentity prefixText).isOk then prefixText else fallbackPrefix) =
        safePrefix := by
    split_ifs with hprefix
    · exact ⟨prefixText, hprefix, rfl⟩
    · exact ⟨fallbackPrefix, validateIdentity_fallbackPrefix, rfl⟩
  refine ⟨safePrefix, hsafe, ?_⟩
  simp only [makeBootIdText, heq, validateIdentity_compose hsafe, Bool.not_true,
    Bool.false_eq_true, if_false]

/-- Every boot identity is valid, and it determines the numbers it was made from. -/
theorem boot_identity_valid_distinct (prefixText : Text) (pid sequence mix : UInt64) :
    (validateIdentity (makeBootIdText prefixText pid sequence mix)).isOk = true ∧
      ∀ (prefixText' : Text) (pid' sequence' mix' : UInt64),
        makeBootIdText prefixText pid sequence mix =
            makeBootIdText prefixText' pid' sequence' mix' →
          pid = pid' ∧ sequence = sequence' ∧ mix = mix' := by
  obtain ⟨safe, hsafe, heq⟩ := makeBootIdText_eq prefixText pid sequence mix
  constructor
  · rw [heq]
    exact validateIdentity_compose hsafe pid sequence mix
  · intro prefixText' pid' sequence' mix' hsame
    obtain ⟨safe', -, heq'⟩ := makeBootIdText_eq prefixText' pid' sequence' mix'
    rw [heq, heq', compose_eq, compose_eq] at hsame
    exact bootSuffix_injective hsame

/-- An empty prefix is replaced by the fallback, so two prefixes can give one text. -/
theorem boot_identity_fallback :
    (validateIdentity (makeBootIdText [] 4711 1 255)).isOk = true ∧
      makeBootIdText [] 4711 1 255 = makeBootIdText fallbackPrefix 4711 1 255 ∧
      (4711 : UInt64) = 4711 ∧ (1 : UInt64) = 1 ∧ (255 : UInt64) = 255 := by
  have hsame : makeBootIdText [] 4711 1 255 = makeBootIdText fallbackPrefix 4711 1 255 := by
    decide +kernel
  obtain ⟨hvalid, hdistinct⟩ := boot_identity_valid_distinct [] 4711 1 255
  exact ⟨hvalid, hsame, hdistinct fallbackPrefix 4711 1 255 hsame⟩

end ClusterFabric
