import SuperChip.Fault
import Mathlib.Data.List.Induction
import Mathlib.Data.List.TakeWhile
import Mathlib.Data.Nat.Digits.Defs

/-!
# Numbers are read back from their digits

Opcodes, addresses and counters are shown by the digits that the core library
writes, with zeros in front where a width is asked for, in upper case where an
opcode or a byte is shown, and behind a sign and a mark in an address.  Reading
such digits gives the number again, so a written form stands for one number.  In
the other direction, a decimal numeral that is read has a bounded number of
digits, and what it stands for can be written.
-/

namespace SuperChip

namespace Numeral

/-! ## Digits as numbers -/

theorem lt_of_digitIn? {base digit : Nat} {c : Char} (h : digitIn? base c = some digit) :
    digit < base := by
  simpa using (Option.filter_eq_some_iff.mp h).2

theorem digits?_cons {base : Nat} {c : Char} {rest : List Char} (hrest : rest ≠ [])
    (hhead : ∀ after, rest ≠ '_' :: after) :
    digits? base (c :: rest) =
      (digitIn? base c).bind fun digit => (digits? base rest).map (digit :: ·) := by
  rw [digits?]
  · cases digitIn? base c with
    | none => rfl
    | some digit => cases digits? base rest <;> rfl
  · exact hrest
  · exact hhead

/-- Characters that stand for digits are read as these digits. -/
theorem digits?_map {base : Nat} {written : Nat → Char} :
    ∀ {digits : List Nat}, digits ≠ [] →
      (∀ digit ∈ digits, digitIn? base (written digit) = some digit) →
      digits? base (digits.map written) = some digits := by
  intro digits
  induction digits with
  | nil => exact fun hne _ => absurd rfl hne
  | cons digit rest ih =>
      intro _ hread
      have hdigit : digitIn? base (written digit) = some digit := hread digit (by simp)
      by_cases hrest : rest = []
      · subst hrest
        simp only [List.map_cons, List.map_nil, digits?, hdigit, Option.map_some]
      · have hafter : digits? base (rest.map written) = some rest :=
          ih hrest fun other hother => hread other (List.mem_cons_of_mem _ hother)
        -- no written digit is an underscore, so the next one is not skipped
        have hhead : ∀ after, rest.map written ≠ '_' :: after := by
          intro after hunderscore
          cases rest with
          | nil => exact hrest rfl
          | cons next _ =>
              have hnext : digitIn? base (written next) = some next := hread next (by simp)
              rw [List.map_cons, List.cons.injEq] at hunderscore
              rw [hunderscore.1] at hnext
              exact absurd hnext (by simp [digitIn?, digitValue?])
        rw [List.map_cons, digits?_cons (by simpa using hrest) hhead, hdigit, hafter]
        rfl

private theorem lt_of_digits?_cons {base : Nat} {c : Char} {rest : List Char} {digits : List Nat}
    (h : (do return (← digitIn? base c) :: (← digits? base rest)) = some digits)
    (hrest : ∀ {after}, digits? base rest = some after → ∀ digit ∈ after, digit < base) :
    ∀ digit ∈ digits, digit < base := by
  simp only [Option.bind_eq_bind, Option.bind_eq_some_iff, Option.pure_def,
    Option.some.injEq] at h
  obtain ⟨first, hfirst, after, hafter, rfl⟩ := h
  intro digit hdigit
  rcases List.mem_cons.mp hdigit with rfl | hdigit
  · exact lt_of_digitIn? hfirst
  · exact hrest hafter digit hdigit

theorem lt_of_digits? {base : Nat} {text : List Char} {digits : List Nat}
    (h : digits? base text = some digits) : ∀ digit ∈ digits, digit < base := by
  fun_induction digits? base text generalizing digits with
  | case1 => cases h
  | case2 c =>
      obtain ⟨digit, hc, rfl⟩ := Option.map_eq_some_iff.mp h
      simpa using lt_of_digitIn? hc
  | case3 c rest ih => exact lt_of_digits?_cons h ih
  | case4 c rest _ _ ih => exact lt_of_digits?_cons h ih

theorem value_append_singleton (base : Nat) (digits : List Nat) (digit : Nat) :
    value base (digits ++ [digit]) = value base digits * base + digit := by
  simp only [value, List.foldl_append, List.foldl_cons, List.foldl_nil]

theorem value_zeros_append (base count : Nat) (digits : List Nat) :
    value base (List.replicate count 0 ++ digits) = value base digits := by
  induction count with
  | zero => rfl
  | succ count ih =>
      rw [List.replicate_succ, List.cons_append, value, List.foldl_cons]
      simpa only [Nat.zero_mul, Nat.zero_add, value] using ih

theorem value_lt {base : Nat} {digits : List Nat} (h : ∀ digit ∈ digits, digit < base) :
    value base digits < base ^ digits.length := by
  induction digits using List.reverseRecOn with
  | nil => simp [value]
  | append_singleton digits digit ih =>
      have hdigit : digit < base := h digit (by simp)
      have hbefore : value base digits < base ^ digits.length :=
        ih fun other hother => h other (by simp [hother])
      calc value base (digits ++ [digit])
          = value base digits * base + digit := value_append_singleton base digits digit
        _ < value base digits * base + base := by omega
        _ = (value base digits + 1) * base := by rw [Nat.add_mul, Nat.one_mul]
        _ ≤ base ^ digits.length * base := Nat.mul_le_mul_right base hbefore
        _ = base ^ (digits ++ [digit]).length := by
            rw [List.length_append, List.length_singleton, Nat.pow_succ]

/-! ## Written digits -/

/-- The number that a text of digits stands for. -/
def natural? (base : Nat) (text : List Char) : Option Nat :=
  (digits? base text).map (value base)

theorem natural?_map {base : Nat} {written : Nat → Char} {digits : List Nat} (hne : digits ≠ [])
    (hread : ∀ digit ∈ digits, digitIn? base (written digit) = some digit) :
    natural? base (digits.map written) = some (value base digits) := by
  rw [natural?, digits?_map hne hread, Option.map_some]

/-- The core library writes a number by its digits. -/
theorem exists_toDigits_eq {base : Nat} (hbase : 1 < base) (n : Nat) :
    ∃ digits, Nat.toDigits base n = digits.map Nat.digitChar ∧ digits ≠ [] ∧
      (∀ digit ∈ digits, digit < base) ∧ value base digits = n := by
  induction n using Nat.strongRecOn with
  | ind n ih =>
      by_cases hsmall : n < base
      · exact ⟨[n], Nat.toDigits_of_lt_base hsmall, by simp, by simpa using hsmall, by simp [value]⟩
      -- the digits of the quotient with the remainder behind them
      · have hfewer : n / base < n := Nat.div_lt_self (by omega) hbase
        obtain ⟨digits, hwritten, -, hlt, hvalue⟩ := ih (n / base) hfewer
        refine ⟨digits ++ [n % base], ?_, by simp, ?_, ?_⟩
        · rw [Nat.toDigits_of_base_le hbase (by omega), hwritten, List.map_append,
            List.map_singleton]
        · intro digit hdigit
          rcases List.mem_append.mp hdigit with hdigit | hdigit
          · exact hlt digit hdigit
          · rw [List.mem_singleton.mp hdigit]
            exact Nat.mod_lt n (by omega)
        · rw [value_append_singleton, hvalue, Nat.div_add_mod']

theorem digitIn?_digitChar {base digit : Nat} (hbase : base ≤ 16) (h : digit < base) :
    digitIn? base (Nat.digitChar digit) = some digit := by
  have hvalue : ∀ digit < 16, digitValue? (Nat.digitChar digit) = some digit := by decide
  rw [digitIn?, hvalue digit (by omega), Option.filter_some]
  simpa using h

theorem digitIn?_toUpper_digitChar {base digit : Nat} (hbase : base ≤ 16) (h : digit < base) :
    digitIn? base (Nat.digitChar digit).toUpper = some digit := by
  have hvalue : ∀ digit < 16, digitValue? (Nat.digitChar digit).toUpper = some digit := by decide
  rw [digitIn?, hvalue digit (by omega), Option.filter_some]
  simpa using h

/-! ## Digits behind a mark -/

theorem magnitude?_of_digits {digits : List Nat} (hne : digits ≠ [])
    (hlt : ∀ digit ∈ digits, digit < 16) :
    (Body.mk 16 (digits.map Nat.digitChar) false).magnitude? = .ok (some (value 16 digits)) := by
  have hdigits : ∀ digit ∈ digits, digitIn? 16 (Nat.digitChar digit) = some digit :=
    fun digit hdigit => digitIn?_digitChar (Nat.le_refl 16) (hlt digit hdigit)
  have hall : ∀ c ∈ digits.map Nat.digitChar, (c == '_' || (digitIn? 16 c).isSome) = true := by
    intro c hc
    obtain ⟨digit, hdigit, rfl⟩ := List.mem_map.mp hc
    simp [hdigits digit hdigit]
  have htake := List.takeWhile_eq_self_iff.mpr hall
  have hdrop := List.dropWhile_eq_nil_iff.mpr hall
  simp [Body.magnitude?, htake, hdrop, digits?_map hne hdigits]

/-- Digits in base sixteen behind their mark, with or without a sign, are read back. -/
theorem read_byMark_of_digits {text : String} {negative : Bool} {digits : List Nat}
    (htext : text.toList =
      (if negative then ['-'] else []) ++ '0' :: 'x' :: digits.map Nat.digitChar)
    (hne : digits ≠ []) (hlt : ∀ digit ∈ digits, digit < 16) :
    read .byMark text =
      .ok (if negative then -(value 16 digits : Int) else value 16 digits) := by
  have hdigitChar : ∀ digit < 16, plainDigit (Nat.digitChar digit) = Nat.digitChar digit ∧
      isPadding (Nat.digitChar digit) = false ∧ Nat.digitChar digit ≠ '_' := by
    decide
  -- nothing is trimmed and nothing is translated
  have hplain : ∀ c ∈ text.toList, plainDigit c = c ∧ isPadding c = false := by
    intro c hc
    rw [htext, List.mem_append, List.mem_cons, List.mem_cons, List.mem_map] at hc
    rcases hc with hsign | rfl | rfl | ⟨digit, hdigit, rfl⟩
    · obtain rfl : c = '-' := by
        cases negative with
        | true => simpa using hsign
        | false => cases hsign
      decide
    · decide
    · decide
    · obtain ⟨hsame, hpadding, -⟩ := hdigitChar digit (hlt digit hdigit)
      exact ⟨hsame, hpadding⟩
  have hmap : text.toList.map plainDigit = text.toList :=
    (List.map_congr_left fun c hc => (hplain c hc).1).trans (List.map_id _)
  have htrimmed : trimmedBy isPadding text.toList = text.toList :=
    trimmedBy_eq_self (fun c hc => (hplain c (List.mem_of_head? hc)).2)
      (fun c hc => (hplain c (List.mem_of_getLast? hc)).2)
  have hsigned : signed text.toList = (negative, '0' :: 'x' :: digits.map Nat.digitChar) := by
    rw [htext]
    cases negative <;> rfl
  have hbody : body .byMark ('0' :: 'x' :: digits.map Nat.digitChar) =
      ⟨16, digits.map Nat.digitChar, false⟩ := by
    have hfirst : skipUnderscore (digits.map Nat.digitChar) = digits.map Nat.digitChar := by
      cases digits with
      | nil => rfl
      | cons digit rest =>
          obtain ⟨-, -, hdigit⟩ := hdigitChar digit (hlt digit List.mem_cons_self)
          rw [List.map_cons, skipUnderscore]
          simp [hdigit]
    simp [body, markedBase?, hfirst]
  simp only [read, hmap, htrimmed, hsigned, hbody, magnitude?_of_digits hne hlt]

/-! ## The limit on decimal digits -/

/-- A decimal numeral that is read has no more digits than the limit allows. -/
theorem natAbs_lt_of_read {text : String} {number : Int} (h : read .decimal text = .ok number) :
    number.natAbs < 10 ^ decimalLimit := by
  -- more digits than the limit are refused before their value is looked at
  have hmagnitude : ∀ {chars : List Char} {magnitude : Nat},
      (body .decimal chars).magnitude? = .ok (some magnitude) → magnitude < 10 ^ decimalLimit := by
    intro chars magnitude hread
    simp only [body, Body.magnitude?] at hread
    split at hread
    · cases hread
    · rename_i digits hdigits
      split at hread
      · cases hread
      · rename_i hfew
        simp only [ne_eq, ite_not, Bool.false_and, Bool.false_eq_true, if_false] at hread
        split at hread
        · have hlength : digits.length ≤ decimalLimit := by simpa using hfew
          have hvalue : magnitude = value 10 digits := by
            simpa using (Except.ok.inj hread).symm
          calc magnitude = value 10 digits := hvalue
            _ < 10 ^ digits.length := value_lt (lt_of_digits? hdigits)
            _ ≤ 10 ^ decimalLimit := Nat.pow_le_pow_right (by decide) hlength
        · cases hread
  simp only [read] at h
  split at h
  · cases h
  · cases h
  · rename_i magnitude hread
    have hlt := hmagnitude hread
    split at h
    · cases h
      simpa using hlt
    · cases h
      simpa using hlt

theorem write_of_lt {number : Int} (h : number.natAbs < 10 ^ decimalLimit) :
    write number = .ok (toString number) := by
  rw [← Nat.pow_eq] at h
  rw [write, if_pos h]

theorem write_of_le {number : Int} (h : 10 ^ decimalLimit ≤ number.natAbs) :
    write number = .error .tooLarge := by
  rw [← Nat.pow_eq] at h
  rw [write, if_neg (Nat.not_lt.mpr h)]

theorem natAbs_lt_of_write {number : Int} {text : String} (h : write number = .ok text) :
    number.natAbs < 10 ^ decimalLimit := by
  by_contra hlimit
  rw [write_of_le (Nat.not_lt.mp hlimit)] at h
  cases h

/-- What a decimal numeral stands for can be written. -/
theorem write_of_read {text : String} {number : Int} (h : read .decimal text = .ok number) :
    write number = .ok (toString number) :=
  write_of_lt (natAbs_lt_of_read h)

end Numeral

theorem numeralOf_of_lt {number : Int} (h : number.natAbs < 10 ^ Numeral.decimalLimit) :
    numeralOf number = .ok (toString number) := by
  rw [numeralOf, Numeral.write_of_lt h]
  rfl

theorem numeralOf_of_le {number : Int} (h : 10 ^ Numeral.decimalLimit ≤ number.natAbs) :
    numeralOf number = .error (.numeral .tooLarge) := by
  rw [numeralOf, Numeral.write_of_le h]
  rfl

/-- What is written with the numeral of a number is written with its digits. -/
theorem of_numeralOf_bind {α : Type} {number : Int} {next : String → Except Fault α} {value : α}
    (h : (numeralOf number >>= next) = .ok value) : next (toString number) = .ok value := by
  by_cases hlt : number.natAbs < 10 ^ Numeral.decimalLimit
  · rw [numeralOf_of_lt hlt] at h
    exact h
  · rw [numeralOf_of_le (Nat.not_lt.mp hlt)] at h
    cases h

namespace Hexadecimal

open Numeral

/-- Zeros in front leave a number written by its digits. -/
theorem exists_lower_eq (width n : Nat) :
    ∃ digits, (lower width n).toList = digits.map Nat.digitChar ∧
      digits ≠ [] ∧ (∀ digit ∈ digits, digit < 16) ∧ value 16 digits = n := by
  obtain ⟨digits, hwritten, hne, hlt, hvalue⟩ := exists_toDigits_eq (by decide : 1 < 16) n
  refine ⟨List.replicate (width - digits.length) 0 ++ digits, ?_, by simp [hne], ?_, ?_⟩
  · simp only [lower, zeroFill, hwritten, String.toList_ofList, List.length_map,
      List.map_append, List.map_replicate]
    rfl
  · intro digit hdigit
    rcases List.mem_append.mp hdigit with hdigit | hdigit
    · rw [List.eq_of_mem_replicate hdigit]
      decide
    · exact hlt digit hdigit
  · rw [value_zeros_append, hvalue]

theorem toList_upper (width n : Nat) :
    (upper width n).toList = (lower width n).toList.map Char.toUpper := by
  simp only [upper, lower, zeroFill, String.toList_ofList, List.length_map, List.map_append,
    List.map_replicate]
  rfl

/-- Upper case leaves them so as well. -/
theorem exists_upper_eq (width n : Nat) :
    ∃ digits, (upper width n).toList = digits.map (fun digit => (Nat.digitChar digit).toUpper) ∧
      digits ≠ [] ∧ (∀ digit ∈ digits, digit < 16) ∧ value 16 digits = n := by
  obtain ⟨digits, hwritten, hdigits⟩ := exists_lower_eq width n
  refine ⟨digits, ?_, hdigits⟩
  rw [toList_upper, hwritten, List.map_map]
  rfl

theorem natural?_lower (width n : Nat) : natural? 16 (lower width n).toList = some n := by
  obtain ⟨digits, hwritten, hne, hlt, hvalue⟩ := exists_lower_eq width n
  rw [hwritten, natural?_map hne fun digit hdigit =>
    digitIn?_digitChar (by decide) (hlt digit hdigit), hvalue]

theorem natural?_upper (width n : Nat) : natural? 16 (upper width n).toList = some n := by
  obtain ⟨digits, hwritten, hne, hlt, hvalue⟩ := exists_upper_eq width n
  rw [hwritten, natural?_map hne fun digit hdigit =>
    digitIn?_toUpper_digitChar (by decide) (hlt digit hdigit), hvalue]

/-- A character that is no digit is not in a number. -/
theorem not_mem_lower {c : Char} (hc : ∀ digit < 16, Nat.digitChar digit ≠ c) (width n : Nat) :
    c ∉ (lower width n).toList := by
  obtain ⟨digits, hwritten, -, hlt, -⟩ := exists_lower_eq width n
  rw [hwritten]
  intro hmem
  obtain ⟨digit, hdigit, hsame⟩ := List.mem_map.mp hmem
  exact hc digit (hlt digit hdigit) hsame

theorem not_mem_upper {c : Char} (hc : ∀ digit < 16, (Nat.digitChar digit).toUpper ≠ c)
    (width n : Nat) : c ∉ (upper width n).toList := by
  obtain ⟨digits, hwritten, -, hlt, -⟩ := exists_upper_eq width n
  rw [hwritten]
  intro hmem
  obtain ⟨digit, hdigit, hsame⟩ := List.mem_map.mp hmem
  exact hc digit (hlt digit hdigit) hsame

/-- A number that needs no more places than it is given takes just these. -/
theorem length_lower {width n : Nat} (hwidth : 0 < width) (hn : n < 16 ^ width) :
    (lower width n).toList.length = width := by
  have hlength := (Nat.length_toDigits_le_iff (by decide) hwidth).mpr hn
  simp only [lower, zeroFill, String.toList_ofList, List.length_append, List.length_replicate]
  omega

theorem length_upper {width n : Nat} (hwidth : 0 < width) (hn : n < 16 ^ width) :
    (upper width n).toList.length = width := by
  rw [toList_upper, List.length_map, length_lower hwidth hn]

/-! ## Addresses -/

theorem exists_address_eq (n : Int) :
    ∃ (negative : Bool) (digits : List Nat), (address n).toList =
        (if negative then ['-'] else []) ++ '0' :: 'x' :: digits.map Nat.digitChar ∧
      digits ≠ [] ∧ (∀ digit ∈ digits, digit < 16) ∧
      (if negative then -(value 16 digits : Int) else value 16 digits) = n := by
  unfold address marked
  split
  · obtain ⟨digits, hwritten, hne, hlt, hvalue⟩ := exists_lower_eq 2 n.natAbs
    refine ⟨true, digits, ?_, hne, hlt, ?_⟩
    · rw [String.toList_append, hwritten]
      rfl
    · rw [hvalue, if_pos rfl]
      omega
  · obtain ⟨digits, hwritten, hne, hlt, hvalue⟩ := exists_lower_eq 3 n.natAbs
    refine ⟨false, digits, ?_, hne, hlt, ?_⟩
    · rw [String.toList_append, hwritten]
      rfl
    · rw [hvalue, if_neg Bool.false_ne_true]
      omega

theorem not_mem_address {c : Char} (hsign : c ≠ '-') (hmark : c ≠ 'x')
    (hc : ∀ digit < 16, Nat.digitChar digit ≠ c) (n : Int) : c ∉ (address n).toList := by
  obtain ⟨negative, digits, hwritten, -, hlt, -⟩ := exists_address_eq n
  rw [hwritten, List.mem_append, List.mem_cons, List.mem_cons]
  rintro (hmem | rfl | rfl | hmem)
  · cases negative with
    | true => exact hsign (by simpa using hmem)
    | false => cases hmem
  · exact hc 0 (by decide) rfl
  · exact hmark rfl
  · obtain ⟨digit, hdigit, hsame⟩ := List.mem_map.mp hmem
    exact hc digit (hlt digit hdigit) hsame

/-- An address is read back, whatever its sign and its number of digits. -/
theorem read_address (n : Int) : read .byMark (address n) = .ok n := by
  obtain ⟨negative, digits, hwritten, hne, hlt, hvalue⟩ := exists_address_eq n
  rw [read_byMark_of_digits hwritten hne hlt, hvalue]

end Hexadecimal

end SuperChip
