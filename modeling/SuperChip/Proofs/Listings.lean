import SuperChip.Listing
import SuperChip.Proofs.Mnemonics

/-!
# A listing loses nothing

A listing shows some bytes two by two, whatever they mean, and a last odd byte as
data.  Each row tells its address and its bytes, once by its number and text and once
more by its line, in two columns of digits: so the bytes are found again in the rows
and in the text of the listing.

## Strategy

The rows are made by a recursion that takes two bytes at a time, and everything about
them is an induction along it.  The columns of a line are read by the functions of this
file: `splitAddress?` reads the address in front of the colon, with its sign and however
many digits it has, and `columnBytes?` reads the digits behind it.  That no line holds a
line feed is a fact about the mnemonics; it leaves the lines to be found in the text.
-/

namespace SuperChip

/-! ## Columns -/

/-- A line that starts with an address and a colon, as this address and what stands
behind the colon and a blank. -/
def splitAddress? (line : List Char) : Option (Int × List Char) :=
  (Numeral.read .byMark (String.ofList (line.takeWhile (· ≠ ':')))).toOption.map fun address =>
    (address, (line.dropWhile (· ≠ ':')).drop 2)

theorem splitAddress?_append (address : Int) (rest : List Char) :
    splitAddress? ((Hexadecimal.address address).toList ++ ':' :: ' ' :: rest) =
      some (address, rest) := by
  have hcolon : ∀ c ∈ (Hexadecimal.address address).toList, decide (c ≠ ':') = true := by
    intro c hc
    refine decide_eq_true ?_
    rintro rfl
    exact Hexadecimal.not_mem_address (by decide) (by decide) (by decide) address hc
  rw [splitAddress?, List.takeWhile_append_of_pos hcolon, List.dropWhile_append_of_pos hcolon]
  simp [String.ofList_toList, Hexadecimal.read_address, Except.toOption]

/-- The bytes in a column of four digits, or of two digits and two blanks. -/
def columnBytes? (column : List Char) : Option (List UInt8) :=
  if column.drop 2 = [' ', ' '] then
    (Numeral.natural? 16 (column.take 2)).map fun value => [UInt8.ofNat value]
  else (Numeral.natural? 16 column).map fun word => [UInt8.ofNat (word / 256), UInt8.ofNat word]

namespace ListingRow

/-! ## What a row tells -/

/-- The number of a row: the word of an opcode, and one that is no word for data. -/
def number : ListingRow → Int
  | opcode _ op => op.toNat
  | byte _ _ => -1

/-- The bytes of a row, of which an opcode has two, the high one first. -/
def bytes : ListingRow → List UInt8
  | opcode _ op => [UInt8.ofNat (op.toNat / 256), UInt8.ofNat op.toNat]
  | byte _ value => [value]

/-- The bytes that a number and a text tell: the text of data ends with its digits. -/
def bytesOf? (number : Int) (text : String) : Option (List UInt8) :=
  if number = -1 then
    (Numeral.natural? 16 (text.toList.drop "db   0x".length)).map fun value => [UInt8.ofNat value]
  else some [UInt8.ofNat (number.toNat / 256), UInt8.ofNat number.toNat]

theorem bytesOf?_number_text (row : ListingRow) :
    bytesOf? row.number row.text = some row.bytes := by
  cases row with
  | opcode address op =>
      have hword : number (opcode address op) ≠ -1 := by
        rw [number]
        omega
      rw [bytesOf?, if_neg hword]
      rfl
  -- a last byte has the number of no word, and is read from the text
  | byte address value =>
      have htext : (text (byte address value)).toList.drop "db   0x".length =
          (Hexadecimal.upper 2 value.toNat).toList := by
        rw [text, String.toList_append]
        rfl
      rw [bytesOf?, number, if_pos rfl, htext, Hexadecimal.natural?_upper, Option.map_some,
        UInt8.ofNat_toNat, bytes]

theorem mapM_bytesOf? (rows : List ListingRow) :
    (rows.mapM fun row => bytesOf? row.number row.text) = some (rows.map bytes) := by
  simp only [bytesOf?_number_text]
  exact List.mapM_pure

/-! ## What a line tells -/

/-- The address and the bytes in the columns of a line. -/
def ofLine? (line : List Char) : Option (Int × List UInt8) :=
  (splitAddress? line).bind fun columns =>
    (columnBytes? (columns.2.take 4)).map fun bytes => (columns.1, bytes)

theorem toList_line (row : ListingRow) :
    row.line.toList = (Hexadecimal.address row.address).toList ++
      ':' :: ' ' :: (row.word.toList ++ ' ' :: ' ' :: row.text.toList) := by
  simp [line, toString]

theorem length_digits (value : UInt8) : (Hexadecimal.upper 2 value.toNat).toList.length = 2 :=
  Hexadecimal.length_upper (by decide) value.toNat_lt

theorem length_word (row : ListingRow) : row.word.toList.length = 4 := by
  cases row with
  | opcode address op => exact Hexadecimal.length_upper (by decide) op.toNat_lt
  | byte address value =>
      rw [word, String.toList_append, List.length_append, length_digits]
      rfl

theorem columnBytes?_word (row : ListingRow) : columnBytes? row.word.toList = some row.bytes := by
  cases row with
  | opcode address op =>
      -- a digit is no blank, so the column of a word is not taken for that of a byte
      have hdigits : op.word.toList.drop 2 ≠ [' ', ' '] := by
        intro hblanks
        have hmem : ' ' ∈ op.word.toList.drop 2 := by simp [hblanks]
        exact Hexadecimal.not_mem_upper (by decide) 4 op.toNat (List.mem_of_mem_drop hmem)
      rw [word, columnBytes?, if_neg hdigits, Opcode.word, Hexadecimal.natural?_upper,
        Option.map_some, bytes]
  | byte address value =>
      have hcolumn : (word (byte address value)).toList =
          (Hexadecimal.upper 2 value.toNat).toList ++ [' ', ' '] := by
        rw [word, String.toList_append]
        rfl
      rw [columnBytes?, hcolumn, List.drop_left' (length_digits value),
        List.take_left' (length_digits value), if_pos rfl, Hexadecimal.natural?_upper,
        Option.map_some, UInt8.ofNat_toNat, bytes]

/-- The columns of a line tell the row. -/
theorem ofLine?_line (row : ListingRow) :
    ofLine? row.line.toList = some (row.address, row.bytes) := by
  rw [ofLine?, toList_line, splitAddress?_append]
  simp only [Option.bind_some, List.take_left' row.length_word, columnBytes?_word, Option.map_some]

example : ofLine? "-0x01: 05    db   0x05".toList = some (-1, [0x05]) := by
  decide +kernel

theorem mapM_ofLine? (rows : List ListingRow) :
    (rows.map fun row => row.line.toList).mapM ofLine? =
      some (rows.map fun row => (row.address, row.bytes)) := by
  simp only [List.mapM_map, Function.comp_def, ofLine?_line]
  exact List.mapM_pure

end ListingRow

/-! ## Lines without line feeds -/

theorem not_mem_intercalate {c : Char} {separator : String} {texts : List String}
    (hseparator : c ∉ separator.toList) (htexts : ∀ text ∈ texts, c ∉ text.toList) :
    c ∉ (separator.intercalate texts).toList := by
  induction texts with
  | nil => simp
  | cons first rest ih =>
      have hfirst : c ∉ first.toList := htexts first List.mem_cons_self
      have hrest := ih fun text hmem => htexts text (List.mem_cons_of_mem _ hmem)
      cases rest with
      | nil => simpa using hfirst
      | cons second rest =>
          rw [String.intercalate_cons_cons, String.toList_append, String.toList_append]
          simp only [List.mem_append, hfirst, hseparator, hrest, or_self, not_false_eq_true]

theorem Operand.feed_not_mem_text (places : Nat) (operand : Operand) :
    '\n' ∉ (operand.text places).toList := by
  cases operand with
  | register x =>
      show '\n' ∉ (Disassembly.registerName x).toList
      decide +kernel +revert
  | registers x =>
      show '\n' ∉ (Disassembly.registerRange x).toList
      decide +kernel +revert
  | rows count =>
      show '\n' ∉ (toString count.val).toList
      decide +kernel +revert
  | number value =>
      have hdigits := Hexadecimal.not_mem_upper (c := '\n') (by decide) places value
      simpa [text] using hdigits
  | named part => cases part <;> simp [text, Part.text]

theorem Instruction.feed_not_mem_opening (instruction : Instruction) :
    '\n' ∉ instruction.opening.toList := by
  cases instruction with
  | switchResolution resolution => cases resolution <;> simp [opening]
  | skipImmediate whenEqual x kk => cases whenEqual <;> simp [opening]
  | skipRegister whenEqual x y n => cases whenEqual <;> simp [opening]
  | skipKey whenPressed x => cases whenPressed <;> simp [opening]
  | combine operation x y => cases operation <;> simp [opening, Arithmetic.name]
  | _ => simp [opening]

theorem Opcode.feed_not_mem_mnemonic (op : Opcode) : '\n' ∉ op.mnemonic.toList := by
  cases hdecode : Instruction.decode op with
  | none =>
      have hword := Hexadecimal.not_mem_upper (c := '\n') (by decide) 4 op.toNat
      rw [mnemonic_of_decode_none hdecode, Opcode.word]
      simpa [toString] using hword
  | some instruction =>
      rw [mnemonic_of_decode hdecode, Instruction.mnemonic_eq, String.toList_append,
        List.mem_append, not_or]
      refine ⟨instruction.feed_not_mem_opening, not_mem_intercalate (by simp) ?_⟩
      intro text htext
      obtain ⟨operand, -, rfl⟩ := List.mem_map.mp htext
      exact operand.feed_not_mem_text instruction.places

theorem ListingRow.feed_not_mem_line (row : ListingRow) : '\n' ∉ row.line.toList := by
  have haddress : '\n' ∉ (Hexadecimal.address row.address).toList :=
    Hexadecimal.not_mem_address (by decide) (by decide) (by decide) row.address
  have hcolumns : '\n' ∉ row.word.toList ∧ '\n' ∉ row.text.toList := by
    cases row with
    | opcode address op =>
        exact ⟨Hexadecimal.not_mem_upper (by decide) 4 op.toNat, op.feed_not_mem_mnemonic⟩
    | byte address value =>
        have hdigits := Hexadecimal.not_mem_upper (c := '\n') (by decide) 2 value.toNat
        exact ⟨by simpa [word] using hdigits, by simpa [text] using hdigits⟩
  rw [toList_line]
  simp [haddress, hcolumns.1, hcolumns.2]

namespace Listing

/-- The lines of a text; the empty text has none. -/
def linesOf (text : String) : List (List Char) :=
  if text = "" then [] else text.toList.splitOn '\n'

variable (address : Int) (bytes : List UInt8)

theorem length_rows : (rows address bytes).length = (bytes.length + 1) / 2 := by
  fun_induction rows address bytes with
  | case1 => rfl
  | case2 => simp
  | case3 address first second rest ih =>
      simp only [List.length_cons, ih]
      omega

theorem flatMap_bytes_rows : (rows address bytes).flatMap ListingRow.bytes = bytes := by
  fun_induction rows address bytes with
  | case1 => rfl
  | case2 => rfl
  | case3 address first second rest ih =>
      have hfirst : UInt8.ofNat ((first.toNat * 256 + second.toNat) / 256) = first := by
        have hsecond := second.toNat_lt
        have hdiv : (first.toNat * 256 + second.toNat) / 256 = first.toNat := by omega
        rw [hdiv, UInt8.ofNat_toNat]
      have hsecond : UInt8.ofNat (first.toNat * 256 + second.toNat) = second := by
        rw [UInt8.ofNat_add, UInt8.ofNat_mul, UInt8.ofNat_toNat, UInt8.ofNat_toNat]
        simp
      rw [List.flatMap_cons, ih, ListingRow.bytes, Opcode.toNat_ofBytes, hfirst, hsecond]
      rfl

theorem address_of_getElem?_rows {k : Nat} {row : ListingRow}
    (h : (rows address bytes)[k]? = some row) : row.address = address + 2 * k := by
  fun_induction rows address bytes generalizing k with
  | case1 => simp at h
  | case2 address last =>
      cases k with
      | zero =>
          cases h
          simp [ListingRow.address]
      | succ k => simp at h
  | case3 address first second rest ih =>
      cases k with
      | zero =>
          cases h
          simp [ListingRow.address]
      | succ k =>
          rw [List.getElem?_cons_succ] at h
          rw [ih h]
          omega

theorem number_of_getElem?_rows {k : Nat} {row : ListingRow}
    (h : (rows address bytes)[k]? = some row) :
    row.number = -1 ↔ bytes.length % 2 = 1 ∧ k + 1 = (rows address bytes).length := by
  fun_induction rows address bytes generalizing k with
  | case1 => simp at h
  | case2 address last =>
      cases k with
      | zero =>
          cases h
          simp [ListingRow.number]
      | succ k => simp at h
  | case3 address first second rest ih =>
      cases k with
      | zero =>
          cases h
          -- a first word is the last row only if no byte is left over
          have hword : (ListingRow.opcode address (.ofBytes first second)).number ≠ -1 := by
            rw [ListingRow.number]
            omega
          have hrest : rest.length % 2 = 1 → (rows (address + 2) rest).length ≠ 0 := by
            rw [length_rows]
            omega
          simp only [hword, List.length_cons, false_iff]
          omega
      | succ k =>
          rw [List.getElem?_cons_succ] at h
          rw [ih h]
          simp only [List.length_cons]
          omega

/-- No line holds a line feed, so the lines are found in the text. -/
theorem splitOn_text (hrows : rows address bytes ≠ []) :
    (text address bytes).toList.splitOn '\n' =
      (rows address bytes).map fun row => row.line.toList := by
  rw [text, String.toList_intercalate, List.map_map]
  refine List.splitOn_intercalate '\n' ?_ (by simpa using hrows)
  intro line hline
  obtain ⟨row, -, rfl⟩ := List.mem_map.mp hline
  exact row.feed_not_mem_line

theorem linesOf_text : linesOf (text address bytes) =
    (rows address bytes).map fun row => row.line.toList := by
  by_cases hrows : rows address bytes = []
  · simp [linesOf, text, hrows]
  have hsplit := splitOn_text address bytes hrows
  -- an empty text would be one empty line
  have hne : text address bytes ≠ "" := by
    intro hempty
    have hmem : [] ∈ (rows address bytes).map fun row => row.line.toList := by
      rw [← hsplit, hempty]
      simp
    obtain ⟨row, -, hline⟩ := List.mem_map.mp hmem
    rw [ListingRow.toList_line] at hline
    simp at hline
  rw [linesOf, if_neg hne, hsplit]

end Listing

/-- A listing of some bytes from an address on has a row for every two of them, one
address after the other, and a last row for the data of an odd byte.  The numbers and
texts of the rows tell parts that make up the bytes, and every line in the text of the
listing tells the address and the part of its row. -/
theorem listing_is_lossless (address : Int) (bytes : List UInt8) :
    let rows := Listing.rows address bytes
    rows.length = (bytes.length + 1) / 2 ∧
      (∀ (k : Nat) (row : ListingRow), rows[k]? = some row →
        row.address = address + 2 * k ∧
          (row.number = -1 ↔ bytes.length % 2 = 1 ∧ k + 1 = rows.length)) ∧
      ∃ parts : List (List UInt8),
        (rows.mapM fun row => ListingRow.bytesOf? row.number row.text) = some parts ∧
          parts.flatten = bytes ∧
          (Listing.linesOf (Listing.text address bytes)).mapM ListingRow.ofLine? =
            some ((rows.map ListingRow.address).zip parts) := by
  intro rows
  refine ⟨Listing.length_rows address bytes, fun k row hrow =>
    ⟨Listing.address_of_getElem?_rows address bytes hrow,
      Listing.number_of_getElem?_rows address bytes hrow⟩,
    rows.map ListingRow.bytes, ListingRow.mapM_bytesOf? rows, ?_, ?_⟩
  · exact Listing.flatMap_bytes_rows address bytes
  · rw [Listing.linesOf_text, ListingRow.mapM_ofLine?, List.zip_map']

end SuperChip
