import SuperChip.CommandLine.Run
import SuperChip.Proofs.Indices
import SuperChip.Proofs.Listings
import SuperChip.Proofs.Renderings
import SuperChip.Proofs.Restart
import SuperChip.Proofs.WrittenBytes

/-!
# A disassembly of memory is a listing

The monitor disassembles from an address on for as many words as it is asked for, and
stops where memory ends.  A listing goes through some bytes, takes them two by two and
shows what is left over.  The first walks over addresses and reads memory, which goes
round; the second walks over a list.  They print the same lines, but for the mark that
the monitor puts in front of each.

## Strategy

`wordRows` are the words in the listing of the bytes behind an address.  At an address
below the last byte they start with the word that the monitor reads there
(`wordRows_of_inside`), and from the last byte on there are none
(`wordRows_of_end`): these are the two branches of the walk, and `disassembleFrom_eq`
follows by induction on the number of words.  A program that was just loaded stands in
front of zeros, whose rows come behind its own (`take_wordRows_withProgram`).
-/

namespace SuperChip

/-! ## Words in a listing -/

namespace ListingRow

/-- Whether a row is that of a word, and not of a last odd byte. -/
def isWord : ListingRow → Bool
  | opcode _ _ => true
  | byte _ _ => false

/-- Whether a line of a listing shows a word, which has two bytes. -/
def showsWord (line : List Char) : Bool :=
  ((ofLine? line).map fun columns => columns.2.length) == some 2

theorem showsWord_line (row : ListingRow) : showsWord row.line.toList = row.isWord := by
  rw [showsWord, ofLine?_line]
  cases row <;> rfl

end ListingRow

namespace Listing

theorem filter_linesOf_text (address : Int) (bytes : List UInt8) :
    (linesOf (text address bytes)).filter ListingRow.showsWord =
      ((rows address bytes).filter ListingRow.isWord).map fun row => row.line.toList := by
  have hshows : ListingRow.showsWord ∘ (fun row : ListingRow => row.line.toList) =
      ListingRow.isWord := funext ListingRow.showsWord_line
  rw [linesOf_text, List.filter_map, hshows]

/-- Of some bytes and what stands behind them, the words of the bytes come first. -/
theorem take_filter_rows_append (address : Int) (bytes behind : List UInt8) {count : Nat}
    (hcount : count ≤ bytes.length / 2) :
    ((rows address (bytes ++ behind)).filter ListingRow.isWord).take count =
      (rows address bytes).take count := by
  fun_induction rows address bytes generalizing count with
  | case1 =>
      obtain rfl : count = 0 := by simpa using hcount
      rfl
  | case2 address last =>
      obtain rfl : count = 0 := by simpa using hcount
      rfl
  -- a word is in front of both, and the rows behind it are those of the rest
  | case3 address first second rest ih =>
      cases count with
      | zero => rfl
      | succ count =>
          have hrest : count ≤ rest.length / 2 := by
            simp only [List.length_cons] at hcount
            omega
          rw [List.cons_append, List.cons_append, rows, List.filter_cons_of_pos rfl,
            List.take_succ_cons, List.take_succ_cons, ih hrest]

/-- A text with a line feed behind it starts with the lines of the listing. -/
theorem take_splitOn_text (address : Int) (bytes : List UInt8) {count : Nat}
    (hcount : count ≤ bytes.length / 2) :
    ((text address bytes ++ "\n").toList.splitOn '\n').take count =
      ((rows address bytes).take count).map fun row => row.line.toList := by
  by_cases hrows : rows address bytes = []
  · have hlength := length_rows address bytes
    rw [hrows, List.length_nil] at hlength
    obtain rfl : count = 0 := by omega
    rfl
  · have hlength : count ≤ ((rows address bytes).map fun row => row.line.toList).length := by
      rw [List.length_map, length_rows]
      omega
    -- behind the last line feed stands an empty line
    have hsplit : (text address bytes ++ "\n").toList.splitOn '\n' =
        ((rows address bytes).map fun row => row.line.toList) ++ [[]] := by
      rw [← splitOn_text address bytes hrows, String.toList_append]
      exact List.splitOnP_append_cons _ _ (beq_self_eq_true '\n')
    rw [hsplit, List.take_append_of_le_length hlength, List.map_take]

end Listing

namespace Run

/-- A run that disassembles prints the listing of the program. -/
theorem ofArguments_of_disassemble {arguments : List String} {settings : Settings} {path : String}
    {outside : Surroundings} {program : List UInt8}
    (hsettings : Settings.ofArguments arguments = .ok settings)
    (hmode : settings.mode = .disassemble) (hrom : settings.rom = some path)
    (hfile : Console.readFile outside.files path = .ok program) :
    ofArguments arguments outside =
      (.returned 0, ⟨Listing.text Memory.programStart program ++ "\n", ""⟩) := by
  have hprogram : Run.program outside.files settings = .ok program := by
    rw [Run.program, hrom]
    exact hfile
  have hready : ready settings outside.files outside.random =
      .error (.returned 0,
        Transcript.empty.say (Listing.text Memory.programStart program ++ "\n")) := by
    rw [ready, if_neg (by simp [hrom]), hprogram]
    simp only [hmode, if_true]
  rw [ofArguments, hsettings]
  simp only [ofSettings, hready, Transcript.empty, Transcript.say, String.empty_append]

end Run

namespace Monitor

/-! ## The walk over addresses -/

/-- The words in the listing of memory from an address on. -/
def wordRows (memory : Memory) (address : Int) : List ListingRow :=
  (Listing.rows address (memory.bytes.toList.drop address.toNat)).filter ListingRow.isWord

theorem wordRows_of_inside (memory : Memory) {address : Int} (hlow : 0 ≤ address)
    (hhigh : address < 4095) :
    wordRows memory address =
      .opcode address (memory.opcode address) :: wordRows memory (address + 2) := by
  have hnext : address + 1 + 1 = address + 2 := by omega
  rw [wordRows, memory.drop_toList_bytes hlow (by omega),
    memory.drop_toList_bytes (by omega) (by omega), hnext]
  rfl

theorem wordRows_of_end (memory : Memory) {address : Int} (hend : 4095 ≤ address) :
    wordRows memory address = [] := by
  have hshort : (memory.bytes.toList.drop address.toNat).length ≤ 1 := by
    rw [List.length_drop, Vector.length_toList]
    omega
  rw [wordRows]
  match memory.bytes.toList.drop address.toNat, hshort with
  | [], _ => rfl
  | [last], _ => rfl

/-- What the monitor prints for a row. -/
def entry (machine : Machine) (row : ListingRow) : String :=
  s!"  {marker (row.address == machine.pc)} {row.line}"

variable {ρ : Type}

/-- The walk prints the words one after the other. -/
theorem disassembleFrom_eq (count : Nat) {address : Int} (hlow : 0 ≤ address) (m : Monitor ρ) :
    disassembleFrom address count m =
      (((wordRows m.machine.memory address).take count).forM fun row =>
        print (entry m.machine row)) m := by
  induction count generalizing address m with
  | zero => rfl
  | succ count ih =>
      by_cases hend : 4095 ≤ address
      · have hstops : (Memory.size : Int) - 1 ≤ address := hend
        simp only [disassembleFrom, bind, EStateM.bind, Attempt.get_eq, if_pos hstops,
          wordRows_of_end _ hend]
        rfl
      · have hgoes : ¬ (Memory.size : Int) - 1 ≤ address := hend
        rw [wordRows_of_inside _ hlow (by omega)]
        simp only [disassembleFrom, bind, EStateM.bind, Attempt.get_eq, if_neg hgoes]
        -- what is printed changes neither memory nor the program counter
        exact ih (by omega) _

/-! ## What is printed -/

theorem toList_entry (machine : Machine) (row : ListingRow) :
    (entry machine row).toList =
      (if row.address = machine.pc then "  >>> " else "      ").toList ++ row.line.toList := by
  by_cases hat : row.address = machine.pc <;> simp [entry, marker, hat, toString]

theorem take_entry (machine : Machine) (row : ListingRow) :
    (entry machine row).toList.take 6 =
      (if row.address = machine.pc then "  >>> " else "      ").toList := by
  rw [toList_entry]
  split <;> rfl

theorem drop_entry (machine : Machine) (row : ListingRow) :
    (entry machine row).toList.drop 6 = row.line.toList := by
  rw [toList_entry]
  split <;> rfl

/-- A line asks for the disassembly of some words from an address on; it names none of
them where it asks for sixteen words, or for those from the program counter on. -/
def AsksForDisassembly (machine : Machine) (line : String) (address count : Int) : Prop :=
  ∃ argument words, MonitorLine.read line = .command .disasm argument ∧
    ShellWords.split argument = .ok words ∧
    words.head?.elim (.ok machine.pc) (readAddress machine) = .ok address ∧
    words.tail.head?.elim (.ok 16) readNumber = .ok count

variable [Generator ρ] {m : Monitor ρ} {line : String} {address count : Int}

theorem execute_of_asksForDisassembly (files : Files)
    (hasks : AsksForDisassembly m.machine line address count) (hlow : 0 ≤ address) :
    execute files line m = .ok false { m with
      printed := m.printed ++
        (((wordRows m.machine.memory address).take count.toNat).map
          (entry m.machine)).toArray } := by
  obtain ⟨argument, words, hline, hwords, hstart, hcount⟩ := hasks
  have hdisassembled : disassemble argument m = disassembleFrom address count.toNat m := by
    -- the address and the count may be left out, in this order
    cases words with
    | nil =>
        obtain rfl : m.machine.pc = address := Except.ok.inj hstart
        obtain rfl : 16 = count := Except.ok.inj hcount
        simp only [disassemble, bind, EStateM.bind, splitWords_of_split hwords]
        rfl
    | cons start rest =>
        rw [List.head?_cons, Option.elim_some] at hstart
        cases rest with
        | nil =>
            obtain rfl : 16 = count := Except.ok.inj hcount
            simp only [disassemble, bind, EStateM.bind, splitWords_of_split hwords, List.head?_cons,
              address_of_readAddress hstart]
            rfl
        | cons number rest =>
            rw [List.tail_cons, List.head?_cons, Option.elim_some] at hcount
            simp only [disassemble, bind, EStateM.bind, splitWords_of_split hwords, List.head?_cons,
              List.tail_cons, address_of_readAddress hstart, ofExcept_readNumber hcount]
  simp only [execute, hline, perform, goOn, bind, EStateM.bind, hdisassembled,
    disassembleFrom_eq _ hlow, forM_print]
  rfl

omit [Generator ρ] in
/-- The words in the listing of memory that a program was loaded into start with its own. -/
theorem take_wordRows_withProgram {program : List UInt8} (hfits : program.length ≤ programLimit)
    {count : Nat} (hcount : count ≤ program.length / 2) :
    (wordRows (.withProgram program) 0x200).take count =
      (Listing.rows 0x200 program).take count := by
  have hbehind : (Memory.withProgram program).bytes.toList.drop (0x200 : Int).toNat =
      program ++ List.replicate (3584 - program.length) 0 := by
    rw [Memory.toList_withProgram hfits, List.append_assoc]
    refine List.drop_left' ?_
    simp only [List.length_append, List.length_replicate, Font.length_small, Font.length_big]
    rfl
  rw [wordRows, hbehind, Listing.take_filter_rows_append _ _ _ hcount]

/-- **A disassembly of memory is a listing.**  From an address that is not negative on, the
monitor prints the lines that show words in the listing of the bytes from there on, as
many as it is asked for, with six characters in front of each that mark the line of the
program counter.  None is printed if none is asked for, or where no word is left.  Just
behind the load of a program, a disassembly from its base on shows the lines that a run
prints which disassembles its file, for as many words as the program has. -/
theorem disassembly_agrees_with_listing (files : Files)
    (hasks : AsksForDisassembly m.machine line address count) (hlow : 0 ≤ address) :
    ∃ printed : List String,
      execute files line m = .ok false { m with printed := m.printed ++ printed.toArray } ∧
      (printed.map fun entry => entry.toList.drop 6) =
        ((Listing.linesOf (Listing.text address
          (m.machine.memory.bytes.toList.drop address.toNat))).filter
            ListingRow.showsWord).take count.toNat ∧
      (count ≤ 0 ∨ 4095 ≤ address → printed = []) ∧
      (∀ entry ∈ printed, ∃ place columns,
        splitAddress? (entry.toList.drop 6) = some (place, columns) ∧
          entry.toList.take 6 =
            (if place = m.machine.pc then "  >>> " else "      ").toList) ∧
      ∀ (c : Console ρ) (program : List UInt8), Console.load program c = .ok () m.console →
        address = 0x200 → count ≤ (program.length / 2 : Nat) →
        ∀ arguments settings path outside, Settings.ofArguments arguments = .ok settings →
          settings.mode = .disassemble → settings.rom = some path →
          Console.readFile outside.files path = .ok program →
          ∃ output, Run.ofArguments arguments outside = (.returned 0, ⟨output, ""⟩) ∧
            (printed.map fun entry => entry.toList.drop 6) =
              (output.toList.splitOn '\n').take count.toNat := by
  have hlines : (((wordRows m.machine.memory address).take count.toNat).map
      (entry m.machine)).map (fun entry => entry.toList.drop 6) =
      ((wordRows m.machine.memory address).take count.toNat).map fun row => row.line.toList := by
    rw [List.map_map]
    exact List.map_congr_left fun row _ => drop_entry m.machine row
  refine ⟨_, execute_of_asksForDisassembly files hasks hlow, ?_, ?_, ?_, ?_⟩
  · rw [hlines, Listing.filter_linesOf_text, ← List.map_take]
    rfl
  · rintro (hnone | hend)
    · have hzero : count.toNat = 0 := by omega
      rw [hzero]
      rfl
    · rw [wordRows_of_end _ hend, List.take_nil]
      rfl
  · intro text htext
    obtain ⟨row, -, rfl⟩ := List.mem_map.mp htext
    refine ⟨row.address, row.word.toList ++ ' ' :: ' ' :: row.text.toList, ?_,
      take_entry m.machine row⟩
    rw [drop_entry, ListingRow.toList_line]
    exact splitAddress?_append row.address _
  · intro c program hload hbase hcount arguments settings path outside hsettings hmode hrom hfile
    refine ⟨_, Run.ofArguments_of_disassemble hsettings hmode hrom hfile, ?_⟩
    have hwords : count.toNat ≤ program.length / 2 := by omega
    have hfits : program.length ≤ programLimit := by
      by_contra hsize
      rw [Console.load_of_too_large c (by omega)] at hload
      cases hload
    -- a program that fits is what memory holds behind a load
    have hmemory : m.machine.memory = .withProgram program := by
      rw [Console.load_of_fits c hfits] at hload
      rw [machine, ← (EStateM.Result.ok.inj hload).2]
      rfl
    rw [hlines, hmemory, hbase, take_wordRows_withProgram hfits hwords]
    exact (Listing.take_splitOn_text 0x200 program hwords).symm

/-- Both words of a program that was just loaded. -/
theorem disassembly_agrees_with_listing_after_load :
    let program : List UInt8 := [0x00, 0xE0, 0x12, 0x00]
    ∃ c : Console Cycle, Console.assemble "schip" 10 false (.ofList [0]) = .ok c ∧
      let m := observing ((Move.load program).after c)
      AsksForDisassembly m.machine "disasm 0x200 2" 0x200 2 ∧ (0 : Int) ≤ 0x200 ∧
        Console.load program c = .ok () m.console ∧
        ∃ printed : List String,
          execute Folder.empty.files "disasm 0x200 2" m =
              .ok false { m with printed := m.printed ++ printed.toArray } ∧
            ∀ outside : Surroundings, outside.files = ⟨fun _ => .ok program⟩ →
              ∃ output,
                Run.ofArguments ["rom", "--disassemble"] outside = (.returned 0, ⟨output, ""⟩) ∧
                  (printed.map fun entry => entry.toList.drop 6) =
                    (output.toList.splitOn '\n').take 2 := by
  intro program
  have hassembled : Console.assemble "schip" 10 false (Cycle.ofList [0]) = .ok _ := rfl
  refine ⟨_, hassembled, ?_⟩
  intro m
  have hline : MonitorLine.read "disasm 0x200 2" = .command .disasm "0x200 2" := by decide +kernel
  have hwords : ShellWords.split "0x200 2" = .ok ["0x200", "2"] := by decide +kernel
  have hasks : AsksForDisassembly m.machine "disasm 0x200 2" 0x200 2 :=
    ⟨"0x200 2", ["0x200", "2"], hline, hwords, rfl, rfl⟩
  have hload : Console.load program _ = .ok () m.console := rfl
  obtain ⟨printed, hexecute, -, -, -, hrun⟩ :=
    disassembly_agrees_with_listing Folder.empty.files hasks (by decide)
  refine ⟨hasks, by decide, hload, printed, hexecute, ?_⟩
  rintro outside hfiles
  have hsettings : Settings.ofArguments ["rom", "--disassemble"] =
      .ok { Settings.default with rom := some "rom", mode := .disassemble } := by
    decide +kernel
  refine hrun _ program hload rfl (by decide) _ _ "rom" outside hsettings rfl rfl ?_
  rw [hfiles]
  rfl

end Monitor

end SuperChip
