import SuperChip.Proofs.Decoders
import SuperChip.Proofs.Numerals
import SuperChip.Proofs.Superset

/-!
# Instructions are read back from their mnemonics

A mnemonic is a name and operands, with blanks and commas between them.  The
reader of this file takes it apart into words, reads every operand for itself
and then asks which instruction has the name with operands of these kinds.  So
the text of an instruction shows all of it but two things (`Instruction.shown`):
the second register of a shift, which the machine does not read either, and the
last digit of a comparison of registers, which the extended set does read.  And
no instruction is shown as an error is.

## Strategy

`Instruction.mnemonic_eq` puts the text of every instruction in one form, an
opening and operands separated by commas, and `words_mnemonic` splits that form
once for all instructions.  What is left for each instruction is its name and
the reading of its operands one by one.  Two opcodes with one text then have one
instruction up to what is not shown, and `perform_eq_of_shown_eq` says that the
machine does not see more of an instruction, except in a comparison.
-/

namespace SuperChip

/-! ## The words of a text -/

namespace Mnemonic

/-- Whether a character ends a word of a mnemonic. -/
def isSeparator (c : Char) : Bool := c == ' ' || c == ','

/-- The words of a text, between blanks and commas. -/
def words (text : List Char) : List (List Char) :=
  (text.splitOnP isSeparator).filter (· ≠ [])

/-- A text that is one word. -/
def IsWord (text : List Char) : Prop :=
  text ≠ [] ∧ (text.all fun c => !isSeparator c) = true

instance (text : List Char) : Decidable (IsWord text) :=
  inferInstanceAs (Decidable (_ ∧ _))

theorem words_append {c : Char} (hc : isSeparator c = true) (before after : List Char) :
    words (before ++ c :: after) = words before ++ words after := by
  rw [words, List.splitOnP_append_cons before after hc, List.filter_append, words, words]

theorem words_of_isWord {text : List Char} (h : IsWord text) : words text = [text] := by
  have hletters : ∀ c ∈ text, isSeparator c = false := by simpa using h.2
  rw [words, List.splitOnP_eq_singleton hletters]
  simp [h.1]

@[simp] theorem words_nil : words [] = [] := by
  simp [words, List.splitOnP_nil]

/-- Operands with a comma and a blank between them are as many words. -/
theorem words_intercalate {operands : List String}
    (h : ∀ operand ∈ operands, IsWord operand.toList) :
    words (", ".intercalate operands).toList = operands.map String.toList := by
  induction operands with
  | nil => exact words_nil
  | cons first rest ih =>
      have hfirst : words first.toList = [first.toList] := words_of_isWord (h first (by simp))
      cases rest with
      | nil => simpa using hfirst
      | cons second rest =>
          have hrest := ih fun operand hoperand => h operand (List.mem_cons_of_mem _ hoperand)
          have hjoined : (", ".intercalate (first :: second :: rest)).toList =
              first.toList ++ ',' :: ([] ++ ' ' :: (", ".intercalate (second :: rest)).toList) := by
            simp [String.intercalate_cons_cons]
          -- between two operands stand a comma and a blank, with no word between them
          calc words (", ".intercalate (first :: second :: rest)).toList
              = words first.toList ++ (words [] ++
                  words (", ".intercalate (second :: rest)).toList) := by
                rw [hjoined, words_append rfl, words_append rfl]
            _ = (first :: second :: rest).map String.toList := by
                rw [hfirst, words_nil, hrest]
                rfl

end Mnemonic

/-! ## Operands -/

/-- The parts of the machine that a mnemonic names. -/
inductive Part where
  | index
  /-- The memory from the index register on. -/
  | block
  | delay
  | sound
  | key
  | smallGlyphs
  | bigGlyphs
  | flags
  deriving DecidableEq, Repr

namespace Part

/-- The name of a part in mnemonics. -/
def text : Part → String
  | index => "I"
  | block => "[I]"
  | delay => "DT"
  | sound => "ST"
  | key => "K"
  | smallGlyphs => "F"
  | bigGlyphs => "HF"
  | flags => "R"

/-- All parts that have a name. -/
def all : List Part := [index, block, delay, sound, key, smallGlyphs, bigGlyphs, flags]

end Part

/-- An operand of a mnemonic. -/
inductive Operand where
  | register (x : Fin 16)
  /-- The registers up to one of them. -/
  | registers (x : Fin 16)
  | rows (count : Fin 16)
  | number (value : Nat)
  | named (part : Part)
  deriving DecidableEq, Repr

namespace Operand

open Mnemonic Disassembly

/-- An operand as it is written, where numbers have some places. -/
def text (places : Nat) : Operand → String
  | register x => registerName x
  | registers x => registerRange x
  | rows count => toString count.val
  | number value => "0x" ++ Hexadecimal.upper places value
  | named part => part.text

/-- The digit that is written in some way. -/
def digitOf? (written : Fin 16 → String) (text : List Char) : Option (Fin 16) :=
  (List.finRange 16).find? fun digit => (written digit).toList == text

/-- The operand that a word stands for. A word with a mark is a number, and any other is
looked for among the names. -/
def read? : List Char → Option Operand
  | '0' :: 'x' :: rest => (Numeral.natural? 16 rest).map .number
  | text =>
    (digitOf? registerName text).map .register <|>
      (digitOf? registerRange text).map .registers <|>
      (digitOf? (fun count => toString count.val) text).map .rows <|>
      (Part.all.find? fun part => part.text.toList == text).map .named

/-- An operand is read back from its text, however many places its number has. -/
theorem read?_text (places : Nat) (operand : Operand) :
    read? (operand.text places).toList = some operand := by
  cases operand with
  | register x =>
      show read? (registerName x).toList = some (.register x)
      decide +kernel +revert
  | registers x =>
      show read? (registerRange x).toList = some (.registers x)
      decide +kernel +revert
  | rows count =>
      show read? (toString count.val).toList = some (.rows count)
      decide +kernel +revert
  | number value =>
      rw [text, String.toList_append]
      calc read? ("0x".toList ++ (Hexadecimal.upper places value).toList)
          = (Numeral.natural? 16 (Hexadecimal.upper places value).toList).map number := rfl
        _ = some (.number value) := by rw [Hexadecimal.natural?_upper, Option.map_some]
  | named part =>
      show read? part.text.toList = some (.named part)
      cases part <;> decide +kernel

theorem isWord_number (places value : Nat) :
    IsWord ("0x" ++ Hexadecimal.upper places value).toList := by
  obtain ⟨digits, hwritten, -, hlt, -⟩ := Hexadecimal.exists_upper_eq places value
  have hdigit : ∀ digit < 16, isSeparator (Nat.digitChar digit).toUpper = false := by decide
  have hletters : ((Hexadecimal.upper places value).toList.all fun c => !isSeparator c) = true := by
    rw [hwritten, List.all_map, List.all_eq_true]
    intro digit hmem
    simp [hdigit digit (hlt digit hmem)]
  rw [String.toList_append]
  refine ⟨by simp, ?_⟩
  rw [List.all_append, hletters]
  decide

theorem isWord_text (places : Nat) (operand : Operand) : IsWord (operand.text places).toList := by
  cases operand with
  | register x =>
      show IsWord (registerName x).toList
      decide +kernel +revert
  | registers x =>
      show IsWord (registerRange x).toList
      decide +kernel +revert
  | rows count =>
      show IsWord (toString count.val).toList
      decide +kernel +revert
  | number value => exact isWord_number places value
  | named part =>
      show IsWord part.text.toList
      cases part <;> decide +kernel

end Operand

/-! ## Instructions -/

namespace Instruction

open Mnemonic Disassembly

/-- The name of an instruction as its mnemonic starts, with the blanks behind it. -/
def opening : Instruction → String
  | clear => "cls"
  | ret => "ret"
  | scrollDown _ => "scdown "
  | scrollRight => "scright"
  | scrollLeft => "scleft"
  | exit => "exit"
  | switchResolution .low => "low"
  | switchResolution .high => "high"
  | jump _ => "jp   "
  | call _ => "call "
  | skipImmediate whenEqual _ _ => if whenEqual then "se   " else "sne  "
  | skipRegister whenEqual _ _ _ => if whenEqual then "se   " else "sne  "
  | addImmediate _ _ => "add  "
  | combine operation _ _ => operation.name ++ " "
  | jumpOffset _ => "jp   "
  | random _ _ => "rnd  "
  | draw _ _ _ => "drw  "
  | skipKey whenPressed _ => if whenPressed then "skp  " else "sknp "
  | addIndex _ => "add  "
  | decimal _ => "bcd  "
  | _ => "ld   "

/-- The operands that a mnemonic shows, in their order. -/
def operands : Instruction → List Operand
  | scrollDown rows => [.rows rows]
  | jump target => [.number target]
  | call target => [.number target]
  | skipImmediate _ x kk => [.register x, .number kk.toNat]
  | skipRegister _ x y _ => [.register x, .register y]
  | loadImmediate x kk => [.register x, .number kk.toNat]
  | addImmediate x kk => [.register x, .number kk.toNat]
  | combine operation x y =>
    if operation.isBinary then [.register x, .register y] else [.register x]
  | loadIndex target => [.named .index, .number target]
  | jumpOffset target => [.register 0, .number target]
  | random x kk => [.register x, .number kk.toNat]
  | draw x y n => [.register x, .register y, .number n.val]
  | skipKey _ x => [.register x]
  | readDelay x => [.register x, .named .delay]
  | awaitKey x => [.register x, .named .key]
  | setDelay x => [.named .delay, .register x]
  | setSound x => [.named .sound, .register x]
  | addIndex x => [.named .index, .register x]
  | smallGlyph x => [.named .smallGlyphs, .register x]
  | bigGlyph x => [.named .bigGlyphs, .register x]
  | decimal x => [.register x]
  | store x => [.named .block, .registers x]
  | load x => [.registers x, .named .block]
  | saveFlags x => [.named .flags, .registers x]
  | loadFlags x => [.registers x, .named .flags]
  | _ => []

/-- The places of the number among the operands. -/
def places : Instruction → Nat
  | jump _ => 3
  | call _ => 3
  | loadIndex _ => 3
  | jumpOffset _ => 3
  | draw _ _ _ => 1
  | _ => 2

theorem mnemonic_eq (instruction : Instruction) :
    instruction.disassembly.mnemonic = instruction.opening ++
      ", ".intercalate (instruction.operands.map (Operand.text instruction.places)) := by
  rw [← String.toList_inj]
  cases instruction with
  | switchResolution resolution => cases resolution <;> rfl
  | skipImmediate whenEqual x kk =>
      cases whenEqual <;>
        simp [disassembly, opening, operands, places, Operand.text, byteText, toString]
  | skipRegister whenEqual x y n =>
      cases whenEqual <;> simp [disassembly, opening, operands, Operand.text, toString]
  | skipKey whenPressed x =>
      cases whenPressed <;> simp [disassembly, opening, operands, Operand.text, toString]
  | combine operation x y =>
      cases operation <;>
        simp [disassembly, opening, operands, Operand.text, Arithmetic.isBinary, toString]
  | jumpOffset target =>
      have hregister : (registerName 0).toList = "v0".toList := by decide +kernel
      simp [disassembly, opening, operands, places, Operand.text, addressText, hregister, toString]
  | _ =>
      simp [disassembly, opening, operands, places, Operand.text, Part.text, byteText, addressText,
        toString]

/-- A name with operands behind it ends with a blank. -/
theorem getLast?_opening (instruction : Instruction) :
    instruction.operands = [] ∨ instruction.opening.toList.getLast? = some ' ' := by
  cases instruction with
  | clear => exact .inl rfl
  | ret => exact .inl rfl
  | scrollRight => exact .inl rfl
  | scrollLeft => exact .inl rfl
  | exit => exact .inl rfl
  | switchResolution resolution => exact .inl rfl
  | skipImmediate whenEqual x kk => cases whenEqual <;> exact .inr (by simp [opening])
  | skipRegister whenEqual x y n => cases whenEqual <;> exact .inr (by simp [opening])
  | skipKey whenPressed x => cases whenPressed <;> exact .inr (by simp [opening])
  | combine operation x y => exact .inr (by simp [opening])
  | _ => exact .inr (by simp [opening])

theorem words_mnemonic (instruction : Instruction) :
    words instruction.disassembly.mnemonic.toList =
      words instruction.opening.toList ++
        instruction.operands.map fun operand => (operand.text instruction.places).toList := by
  have hoperands : words (", ".intercalate
      (instruction.operands.map (Operand.text instruction.places))).toList =
      instruction.operands.map fun operand => (operand.text instruction.places).toList := by
    rw [words_intercalate, List.map_map]
    · rfl
    · intro text htext
      obtain ⟨operand, -, rfl⟩ := List.mem_map.mp htext
      exact operand.isWord_text instruction.places
  rw [mnemonic_eq, String.toList_append]
  -- the blank behind the name separates it from the first operand
  rcases instruction.getLast?_opening with hnone | hblank
  · simp [hnone]
  · obtain ⟨name, hname⟩ := List.getLast?_eq_some_iff.mp hblank
    rw [hname, List.append_assoc, List.singleton_append, words_append rfl, words_append rfl,
      hoperands, words_nil, List.append_nil]

/-- The instruction with a name and operands. -/
def ofOperands? (name : String) : List Operand → Option Instruction
  | [] =>
    match name with
    | "cls" => some .clear
    | "ret" => some .ret
    | "scright" => some .scrollRight
    | "scleft" => some .scrollLeft
    | "exit" => some .exit
    | "low" => some (.switchResolution .low)
    | "high" => some (.switchResolution .high)
    | _ => none
  | [.rows count] => if name = "scdown" then some (.scrollDown count) else none
  | [.number target] =>
    match name with
    | "jp" => some (.jump target)
    | "call" => some (.call target)
    | _ => none
  | [.register x] =>
    match name with
    | "shr" => some (.combine .shiftRight x 0)
    | "shl" => some (.combine .shiftLeft x 0)
    | "skp" => some (.skipKey true x)
    | "sknp" => some (.skipKey false x)
    | "bcd" => some (.decimal x)
    | _ => none
  | [.register x, .number value] =>
    match name with
    | "se" => some (.skipImmediate true x (UInt8.ofNat value))
    | "sne" => some (.skipImmediate false x (UInt8.ofNat value))
    | "ld" => some (.loadImmediate x (UInt8.ofNat value))
    | "add" => some (.addImmediate x (UInt8.ofNat value))
    | "jp" => if x = 0 then some (.jumpOffset value) else none
    | "rnd" => some (.random x (UInt8.ofNat value))
    | _ => none
  | [.register x, .register y] =>
    match name with
    | "se" => some (.skipRegister true x y 0)
    | "sne" => some (.skipRegister false x y 0)
    | "ld" => some (.combine .copy x y)
    | "or" => some (.combine .or x y)
    | "and" => some (.combine .and x y)
    | "xor" => some (.combine .xor x y)
    | "add" => some (.combine .add x y)
    | "sub" => some (.combine .subtract x y)
    | "subn" => some (.combine .subtractFrom x y)
    | _ => none
  | [.register x, .register y, .number rows] =>
    if name = "drw" then some (.draw x y (Fin.ofNat 16 rows)) else none
  | [.register x, .named part] =>
    match name, part with
    | "ld", .delay => some (.readDelay x)
    | "ld", .key => some (.awaitKey x)
    | _, _ => none
  | [.named part, .register x] =>
    match name, part with
    | "ld", .delay => some (.setDelay x)
    | "ld", .sound => some (.setSound x)
    | "add", .index => some (.addIndex x)
    | "ld", .smallGlyphs => some (.smallGlyph x)
    | "ld", .bigGlyphs => some (.bigGlyph x)
    | _, _ => none
  | [.named part, .number target] =>
    match name, part with
    | "ld", .index => some (.loadIndex target)
    | _, _ => none
  | [.named part, .registers x] =>
    match name, part with
    | "ld", .block => some (.store x)
    | "ld", .flags => some (.saveFlags x)
    | _, _ => none
  | [.registers x, .named part] =>
    match name, part with
    | "ld", .block => some (.load x)
    | "ld", .flags => some (.loadFlags x)
    | _, _ => none
  | _ => none

/-- The instruction that a mnemonic stands for. -/
def ofMnemonic? (text : String) : Option Instruction :=
  match words text.toList with
  | [] => none
  | name :: operands => (operands.mapM Operand.read?).bind (ofOperands? (String.ofList name))

/-- What the mnemonic of an instruction shows of it. -/
def shown : Instruction → Instruction
  | skipRegister whenEqual x y _ => skipRegister whenEqual x y 0
  | combine operation x y => combine operation x (if operation.isBinary then y else 0)
  | instruction => instruction

/-- The opening of every mnemonic is a name that its operands go with. -/
theorem exists_name (instruction : Instruction) :
    ∃ name : String, words instruction.opening.toList = [name.toList] ∧
      ofOperands? name instruction.operands = some instruction.shown := by
  have hld : words "ld   ".toList = ["ld".toList] := by decide +kernel
  have hadd : words "add  ".toList = ["add".toList] := by decide +kernel
  have hjp : words "jp   ".toList = ["jp".toList] := by decide +kernel
  have hse : words "se   ".toList = ["se".toList] := by decide +kernel
  have hsne : words "sne  ".toList = ["sne".toList] := by decide +kernel
  cases instruction with
  | clear => exact ⟨"cls", by decide +kernel, rfl⟩
  | ret => exact ⟨"ret", by decide +kernel, rfl⟩
  | scrollDown rows => exact ⟨"scdown", (by decide +kernel : words "scdown ".toList = _), rfl⟩
  | scrollRight => exact ⟨"scright", by decide +kernel, rfl⟩
  | scrollLeft => exact ⟨"scleft", by decide +kernel, rfl⟩
  | exit => exact ⟨"exit", by decide +kernel, rfl⟩
  | switchResolution resolution =>
      cases resolution with
      | low => exact ⟨"low", by decide +kernel, rfl⟩
      | high => exact ⟨"high", by decide +kernel, rfl⟩
  | jump target => exact ⟨"jp", hjp, rfl⟩
  | call target => exact ⟨"call", (by decide +kernel : words "call ".toList = _), rfl⟩
  | skipImmediate whenEqual x kk =>
      cases whenEqual with
      | true => exact ⟨"se", hse, by simp [operands, ofOperands?, shown]⟩
      | false => exact ⟨"sne", hsne, by simp [operands, ofOperands?, shown]⟩
  | skipRegister whenEqual x y n =>
      cases whenEqual with
      | true => exact ⟨"se", hse, rfl⟩
      | false => exact ⟨"sne", hsne, rfl⟩
  | loadImmediate x kk => exact ⟨"ld", hld, by simp [operands, ofOperands?, shown]⟩
  | addImmediate x kk => exact ⟨"add", hadd, by simp [operands, ofOperands?, shown]⟩
  | combine operation x y =>
      cases operation with
      | copy => exact ⟨"ld", hld, rfl⟩
      | or => exact ⟨"or", (by decide +kernel : words "or   ".toList = _), rfl⟩
      | and => exact ⟨"and", (by decide +kernel : words "and  ".toList = _), rfl⟩
      | xor => exact ⟨"xor", (by decide +kernel : words "xor  ".toList = _), rfl⟩
      | add => exact ⟨"add", hadd, rfl⟩
      | subtract => exact ⟨"sub", (by decide +kernel : words "sub  ".toList = _), rfl⟩
      | shiftRight => exact ⟨"shr", (by decide +kernel : words "shr  ".toList = _), rfl⟩
      | subtractFrom => exact ⟨"subn", (by decide +kernel : words "subn ".toList = _), rfl⟩
      | shiftLeft => exact ⟨"shl", (by decide +kernel : words "shl  ".toList = _), rfl⟩
  | loadIndex target => exact ⟨"ld", hld, rfl⟩
  | jumpOffset target => exact ⟨"jp", hjp, rfl⟩
  | random x kk =>
      exact ⟨"rnd", (by decide +kernel : words "rnd  ".toList = _),
        by simp [operands, ofOperands?, shown]⟩
  | draw x y n =>
      exact ⟨"drw", (by decide +kernel : words "drw  ".toList = _),
        by simp [operands, ofOperands?, shown]⟩
  | skipKey whenPressed x =>
      cases whenPressed with
      | true => exact ⟨"skp", (by decide +kernel : words "skp  ".toList = _), rfl⟩
      | false => exact ⟨"sknp", (by decide +kernel : words "sknp ".toList = _), rfl⟩
  | decimal x => exact ⟨"bcd", (by decide +kernel : words "bcd  ".toList = _), rfl⟩
  | addIndex x => exact ⟨"add", hadd, rfl⟩
  | _ => exact ⟨"ld", hld, rfl⟩

theorem mapM_read?_operands (places : Nat) (operands : List Operand) :
    (operands.map fun operand => (operand.text places).toList).mapM Operand.read? =
      some operands := by
  induction operands with
  | nil => rfl
  | cons operand rest ih =>
      rw [List.map_cons, List.mapM_cons, Operand.read?_text, ih]
      rfl

theorem ofMnemonic?_mnemonic (instruction : Instruction) :
    ofMnemonic? instruction.disassembly.mnemonic = some instruction.shown := by
  obtain ⟨name, hname, hread⟩ := instruction.exists_name
  rw [ofMnemonic?, words_mnemonic, hname, List.singleton_append]
  calc (((instruction.operands.map fun operand =>
        (operand.text instruction.places).toList).mapM Operand.read?).bind
          (ofOperands? (String.ofList name.toList)))
      = (some instruction.operands).bind (ofOperands? name) := by
        rw [mapM_read?_operands, String.ofList_toList]
    _ = some instruction.shown := hread

/-- No instruction is shown as an opcode without meaning is. -/
theorem ofMnemonic?_error (value : Nat) :
    ofMnemonic? s!"ERROR 0x{Hexadecimal.upper 4 value}" = none := by
  have hname : words "ERROR".toList = ["ERROR".toList] := by decide +kernel
  have htext : (s!"ERROR 0x{Hexadecimal.upper 4 value}").toList =
      "ERROR".toList ++ ' ' :: ((Operand.number value).text 4).toList := by
    simp [Operand.text, toString]
  have hwords : words (s!"ERROR 0x{Hexadecimal.upper 4 value}").toList =
      ["ERROR".toList, ((Operand.number value).text 4).toList] := by
    rw [htext, words_append rfl, hname, words_of_isWord (Operand.isWord_text 4 _)]
    rfl
  -- a name and one number, and no instruction has this name
  have hread := mapM_read?_operands 4 [.number value]
  rw [ofMnemonic?, hwords]
  simp only [List.map_cons, List.map_nil] at hread
  simp only [hread, Option.bind_some, String.ofList_toList]
  rfl

end Instruction

namespace Opcode

theorem mnemonic_of_decode {op : Opcode} {instruction : Instruction}
    (h : Instruction.decode op = some instruction) :
    op.mnemonic = instruction.disassembly.mnemonic := by
  rw [mnemonic, disassembly_of_decode h]

theorem mnemonic_of_decode_none {op : Opcode} (h : Instruction.decode op = none) :
    op.mnemonic = s!"ERROR 0x{op.word}" := by
  obtain ⟨meaning, pattern, hunnamed⟩ := disassembly_of_decode_none h
  rw [mnemonic, hunnamed, unnamed]

/-- The mnemonic of an opcode is read as the instruction that the opcode asks for. -/
theorem ofMnemonic?_mnemonic (op : Opcode) :
    Instruction.ofMnemonic? op.mnemonic = (Instruction.decode op).map Instruction.shown := by
  cases hdecode : Instruction.decode op with
  | none =>
      rw [mnemonic_of_decode_none hdecode, Option.map_none]
      exact Instruction.ofMnemonic?_error op.toNat
  | some instruction =>
      rw [mnemonic_of_decode hdecode, Option.map_some]
      exact instruction.ofMnemonic?_mnemonic

end Opcode

end SuperChip
