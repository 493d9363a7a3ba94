import Mathlib.Data.List.Forall2
import SuperChip.Proofs.Reachable

/-!
# Bytes written from the monitor

`setmem` reads one word after the other and writes each number before it looks at the
next word.  So the words that are numbers, up to the first that is none, decide what
memory holds afterwards, and a word that is refused leaves the bytes in front of it
written.  Addresses go round at both ends of memory: of several bytes for one cell the
last one stays (`Memory.Written`).

## Strategy

Words that are numbers move the rest of the command on to the memory in which they are
written (`writeBytes_append`).  Behind them stands either nothing, or a word that is
refused, and then the first such word (`exists_first_refused`).
-/

namespace SuperChip

/-! ## Memory -/

namespace Memory

/-- What is read after some bytes are written from an address on.  A byte is found at its
address if no later one comes round to its cell, and a cell to which none comes keeps
what it held. -/
structure Written (memory : Memory) (address : Int) (values : List UInt8) (after : Memory) :
    Prop where
  last : ∀ k (hk : k < values.length), values.length ≤ k + 4096 →
    after.read (address + k) = values[k]
  others : ∀ other, (∀ k : Nat, k < values.length → (other - (address + k)) % 4096 ≠ 0) →
    after.read other = memory.read other

theorem written_writeAll (memory : Memory) (address : Int) (values : List UInt8) :
    memory.Written address values (memory.writeAll address values) := by
  induction values generalizing memory address with
  | nil =>
      constructor
      · intro k hk
        cases hk
      · intro other _
        rfl
  | cons value rest ih =>
      have hrest := ih (memory.write address value) (address + 1)
      constructor
      · intro k hk hlast
        rw [List.length_cons] at hk hlast
        cases k with
        | zero =>
            -- the bytes that follow stay within one round
            calc ((memory.write address value).writeAll (address + 1) rest).read (address + 0)
                = (memory.write address value).read (address + 0) := by
                  apply hrest.others
                  intro j hj
                  omega
              _ = value := by rw [Int.add_zero, read_write_self]
        | succ k =>
            have hnext : address + (k + 1 : Nat) = address + 1 + k := by omega
            rw [hnext]
            exact hrest.last k (by omega) (by omega)
      · intro other hothers
        have hfirst : ¬ (other - address) % 4096 = 0 := by
          have hzero := hothers 0 (by simp)
          simpa using hzero
        calc ((memory.write address value).writeAll (address + 1) rest).read other
            = (memory.write address value).read other := by
              apply hrest.others
              intro k hk
              have hnext := hothers (k + 1) (by simpa using hk)
              have hcell : address + (k + 1 : Nat) = address + 1 + k := by omega
              rwa [hcell] at hnext
          _ = memory.read other := by rw [read_write, if_neg hfirst]

end Memory

namespace Monitor

/-! ## Words that are numbers -/

/-- Some words stand for these numbers. -/
def ReadAs (words : List String) (numbers : List Int) : Prop :=
  List.Forall₂ (fun word number => readNumber word = .ok number) words numbers

theorem readNumber_cases (word : String) :
    (∃ number, readNumber word = .ok number) ∨
      ∃ cause, readNumber word = .error (.numeral cause) := by
  unfold readNumber
  cases Numeral.read .byMark (trimmed word) with
  | ok number => exact .inl ⟨number, rfl⟩
  | error cause => exact .inr ⟨cause, rfl⟩

theorem readAddress_cases (machine : Machine) (word : String) :
    (∃ address, readAddress machine word = .ok address) ∨
      ∃ cause, readAddress machine word = .error (.numeral cause) := by
  unfold readAddress
  dsimp only
  split
  · exact .inl ⟨machine.pc, rfl⟩
  · split
    · exact .inl ⟨machine.i, rfl⟩
    · cases Numeral.read .byMark (lowercased (trimmed word)) with
      | ok number => exact .inl ⟨number, rfl⟩
      | error cause => exact .inr ⟨cause, rfl⟩

theorem readAs_or_refused (words : List String) :
    (∃ numbers, ReadAs words numbers) ∨
      ∃ word ∈ words, ∀ number, readNumber word ≠ .ok number := by
  induction words with
  | nil => exact .inl ⟨[], .nil⟩
  | cons word rest ih =>
      rcases readNumber_cases word with ⟨number, hnumber⟩ | ⟨cause, hrefused⟩
      · rcases ih with ⟨numbers, hnumbers⟩ | ⟨later, hlater, hnone⟩
        · exact .inl ⟨number :: numbers, .cons hnumber hnumbers⟩
        · exact .inr ⟨later, List.mem_cons_of_mem _ hlater, hnone⟩
      · refine .inr ⟨word, List.mem_cons_self, fun number hnumber => ?_⟩
        rw [hrefused] at hnumber
        cases hnumber

/-- If a word is refused, there is a first one that is, and the words in front of it are
numbers. -/
theorem exists_first_refused {words : List String}
    (h : ∃ word ∈ words, ∀ number, readNumber word ≠ .ok number) :
    ∃ front word behind numbers cause, words = front ++ word :: behind ∧ ReadAs front numbers ∧
      readNumber word = .error (.numeral cause) := by
  induction words with
  | nil =>
      obtain ⟨word, hword, -⟩ := h
      cases hword
  | cons first rest ih =>
      rcases readNumber_cases first with ⟨number, hnumber⟩ | ⟨cause, hrefused⟩
      · obtain ⟨word, hword, hnone⟩ := h
        have hlater : word ∈ rest := by
          rcases List.mem_cons.mp hword with rfl | hlater
          · exact absurd hnumber (hnone number)
          · exact hlater
        obtain ⟨front, word, behind, numbers, cause, rfl, hfront, hrefused⟩ :=
          ih ⟨word, hlater, hnone⟩
        exact ⟨first :: front, word, behind, number :: numbers, cause, rfl,
          .cons hnumber hfront, hrefused⟩
      · exact ⟨[], first, rest, [], cause, rfl, .nil, hrefused⟩

/-! ## Arguments -/

variable {ρ : Type}

theorem splitWords_of_split {argument : String} {words : List String}
    (h : ShellWords.split argument = .ok words) (m : Monitor ρ) :
    splitWords argument m = .ok words m := by
  rw [splitWords, h]
  rfl

theorem address_of_readAddress {m : Monitor ρ} {word : String} {number : Int}
    (h : readAddress m.machine word = .ok number) : address word m = .ok number m := by
  simp only [address, bind, EStateM.bind, Attempt.get_eq, h]
  rfl

theorem ofExcept_readNumber {word : String} {number : Int} (h : readNumber word = .ok number)
    (m : Monitor ρ) : Attempt.ofExcept (readNumber word) m = .ok number m := by
  rw [h]
  rfl

/-! ## Writing them -/

/-- A monitor whose memory holds some bytes from an address on. -/
def poked (m : Monitor ρ) (address : Int) (values : List UInt8) : Monitor ρ :=
  { m with console := { m.console with engine := m.console.engine.onMachine fun machine =>
      { machine with memory := machine.memory.writeAll address values } } }

theorem written_poked (m : Monitor ρ) (address : Int) (values : List UInt8) :
    m.machine.memory.Written address values (m.poked address values).machine.memory :=
  Memory.written_writeAll m.machine.memory address values

theorem writeBytes_cons {word : String} {number : Int} (hword : readNumber word = .ok number)
    (address : Int) (rest : List String) (m : Monitor ρ) :
    writeBytes address (word :: rest) m =
      writeBytes (address + 1) rest (m.poked address [lowByte number]) := by
  rw [writeBytes, hword]
  rfl

theorem writeBytes_of_refused {word : String} {fault : Fault}
    (hword : readNumber word = .error fault)
    (address : Int) (rest : List String) (m : Monitor ρ) :
    writeBytes address (word :: rest) m = .error fault m := by
  rw [writeBytes, hword]
  rfl

/-- Words that are numbers are written, and the command goes on behind them. -/
theorem writeBytes_append {front : List String} {numbers : List Int} (hfront : ReadAs front numbers)
    (address : Int) (rest : List String) (m : Monitor ρ) :
    writeBytes address (front ++ rest) m =
      writeBytes (address + numbers.length) rest (m.poked address (numbers.map lowByte)) := by
  induction hfront generalizing address m with
  | nil => rw [List.length_nil, Int.ofNat_zero, Int.add_zero]; rfl
  | @cons word number front numbers hword _ ih =>
      have haddress : address + 1 + (numbers.length : Int) =
          address + ((number :: numbers).length : Int) := by
        rw [List.length_cons]
        omega
      rw [List.cons_append, writeBytes_cons hword, ih, haddress]
      rfl

theorem writeBytes_of_readAs {words : List String} {numbers : List Int}
    (hnumbers : ReadAs words numbers) (address : Int) (m : Monitor ρ) :
    writeBytes address words m = .ok () (m.poked address (numbers.map lowByte)) := by
  have happend := writeBytes_append hnumbers address [] m
  rwa [List.append_nil] at happend

/-! ## The command -/

variable [Generator ρ] {m : Monitor ρ} {line argument start : String} {words : List String}

theorem execute_of_setmem (files : Files)
    (hline : MonitorLine.read line = .command .setmem argument)
    (hwords : ShellWords.split argument = .ok (start :: words)) (hsome : words ≠ [])
    (m : Monitor ρ) :
    execute files line m = goOn (do
      let address ← address start
      writeBytes address words
      print s!"  Wrote {words.length} bytes at {Hexadecimal.address address}") m := by
  obtain ⟨word, rest, rfl⟩ := List.exists_cons_of_ne_nil hsome
  simp only [execute, hline, perform, goOn, setMemory, bind, EStateM.bind,
    splitWords_of_split hwords]

/-- **What `setmem` writes.**  If the address and all words are numbers, each number is
written modulo 256 behind the one before it, modulo the size of memory, and nothing else
changes but that a line is printed.  If the address is refused, nothing changes at all.
If a word is refused, the numbers in front of the first such word have been written, and
nothing else has changed: the command is not undone. -/
theorem setmem_writes_leading_numbers (m : Monitor ρ) (files : Files)
    (hline : MonitorLine.read line = .command .setmem argument)
    (hwords : ShellWords.split argument = .ok (start :: words)) (hsome : words ≠ []) :
    (∀ address numbers, readAddress m.machine start = .ok address → ReadAs words numbers →
      execute files line m = .ok false { m.poked address (numbers.map lowByte) with
        printed := m.printed.push
          s!"  Wrote {words.length} bytes at {Hexadecimal.address address}" }) ∧
    ((∀ address, readAddress m.machine start ≠ .ok address) →
      ∃ cause, execute files line m = .error (.numeral cause) m) ∧
    (∀ address, readAddress m.machine start = .ok address →
      (∃ word ∈ words, ∀ number, readNumber word ≠ .ok number) →
        ∃ front word behind numbers cause, words = front ++ word :: behind ∧
          ReadAs front numbers ∧ readNumber word = .error (.numeral cause) ∧
          execute files line m =
            .error (.numeral cause) (m.poked address (numbers.map lowByte))) ∧
    ∀ address values, m.machine.memory.Written address values
      (m.poked address values).machine.memory := by
  have hexecute := execute_of_setmem files hline hwords hsome m
  refine ⟨?_, ?_, ?_, m.written_poked⟩
  · intro address numbers haddress hnumbers
    rw [hexecute]
    simp only [goOn, bind, EStateM.bind, address_of_readAddress haddress,
      writeBytes_of_readAs hnumbers]
    rfl
  · intro hnone
    rcases readAddress_cases m.machine start with ⟨address, haddress⟩ | ⟨cause, hrefused⟩
    · exact absurd haddress (hnone address)
    · refine ⟨cause, ?_⟩
      rw [hexecute]
      simp only [goOn, Monitor.address, bind, EStateM.bind, Attempt.get_eq, hrefused]
      rfl
  · intro address haddress hrefused
    obtain ⟨front, word, behind, numbers, cause, rfl, hfront, hword⟩ :=
      exists_first_refused hrefused
    refine ⟨front, word, behind, numbers, cause, rfl, hfront, hword, ?_⟩
    have hwritten : writeBytes address (front ++ word :: behind) m =
        .error (.numeral cause) (m.poked address (numbers.map lowByte)) := by
      rw [writeBytes_append hfront, writeBytes_of_refused hword]
    rw [hexecute]
    simp only [goOn, bind, EStateM.bind, address_of_readAddress haddress, hwritten]

/-- A number and a word that is none: the number is written. -/
theorem setmem_writes_leading_numbers_of_one :
    ∃ c : Console Cycle, Console.assemble "schip" 10 false (.ofList [0]) = .ok c ∧
      let m := observing ((Move.load [0x12, 0x00]).after c)
      MonitorLine.read "setmem 0x300 1 zz" = .command .setmem "0x300 1 zz" ∧
        ShellWords.split "0x300 1 zz" = .ok ["0x300", "1", "zz"] ∧ ["1", "zz"] ≠ [] ∧
        ∃ front word behind numbers cause, ["1", "zz"] = front ++ word :: behind ∧
          ReadAs front numbers ∧ readNumber word = .error (.numeral cause) ∧
          execute Folder.empty.files "setmem 0x300 1 zz" m =
            .error (.numeral cause) (m.poked 0x300 (numbers.map lowByte)) := by
  have hassembled : Console.assemble "schip" 10 false (Cycle.ofList [0]) = .ok _ := rfl
  refine ⟨_, hassembled, ?_⟩
  intro m
  have hline : MonitorLine.read "setmem 0x300 1 zz" = .command .setmem "0x300 1 zz" := by
    decide +kernel
  have hwords : ShellWords.split "0x300 1 zz" = .ok ["0x300", "1", "zz"] := by
    decide +kernel
  have haddress : readAddress m.machine "0x300" = .ok 0x300 := rfl
  have hrefused : ∃ word ∈ ["1", "zz"], ∀ number, readNumber word ≠ .ok number := by
    refine ⟨"zz", by decide, fun number hnumber => ?_⟩
    have hcause : readNumber "zz" = .error (.numeral (.malformed .byMark "zz")) := rfl
    rw [hcause] at hnumber
    cases hnumber
  have hwritten := setmem_writes_leading_numbers m Folder.empty.files hline hwords (by decide)
  exact ⟨hline, hwords, by decide, hwritten.2.2.1 0x300 haddress hrefused⟩

/-- The command is not all or nothing: here it fails, and a byte has changed. -/
theorem setmem_writes_before_it_fails :
    ∃ c : Console Cycle, Console.assemble "schip" 10 false (.ofList [0]) = .ok c ∧
      let m := observing ((Move.load [0x12, 0x00]).after c)
      m.Reachable ∧
        ∃ cause after, execute Folder.empty.files "setmem 0x300 1 zz" m =
            .error (.numeral cause) after ∧
          m.machine.memory.read 0x300 = 0 ∧ after.machine.memory.read 0x300 = 1 := by
  have hassembled : Console.assemble "schip" 10 false (Cycle.ofList [0]) = .ok _ := rfl
  refine ⟨_, hassembled, ?_⟩
  intro m
  have hreachable : m.Reachable :=
    .observing ((Console.sound_of_assemble hassembled).after (.load [0x12, 0x00])) none
  have hline : MonitorLine.read "setmem 0x300 1 zz" = .command .setmem "0x300 1 zz" := by
    decide +kernel
  have hwords : ShellWords.split "0x300 1 zz" = .ok ["0x300", "1", "zz"] := by
    decide +kernel
  have hnumber : readNumber "1" = .ok 1 := rfl
  have hrefused : readNumber "zz" = .error (.numeral (.malformed .byMark "zz")) := rfl
  have hexecute : execute Folder.empty.files "setmem 0x300 1 zz" m =
      .error (.numeral (.malformed .byMark "zz")) (m.poked 0x300 [1]) := by
    have haddress : address "0x300" m = .ok 0x300 m := rfl
    rw [execute_of_setmem Folder.empty.files hline hwords (by decide)]
    simp only [goOn, bind, EStateM.bind, haddress, writeBytes_cons hnumber,
      writeBytes_of_refused hrefused]
    rfl
  have hbefore : m.machine.memory.read 0x300 = 0 := by decide +kernel
  have hafter : (m.poked 0x300 [1]).machine.memory.read 0x300 = 1 :=
    (m.written_poked 0x300 [1]).last 0 (by decide) (by decide)
  exact ⟨hreachable, _, _, hexecute, hbefore, hafter⟩

end Monitor

end SuperChip
