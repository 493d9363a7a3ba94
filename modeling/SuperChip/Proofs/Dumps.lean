import SuperChip.Proofs.Indices
import SuperChip.Proofs.Listings
import SuperChip.Proofs.Renderings
import SuperChip.Proofs.WrittenBytes

/-!
# What a dump shows

A dump shows the bytes of a range of addresses, sixteen in a row, and each row starts
with its address.  The range ends with memory and may start with negative indices, which
count from its end: so a row may go on from the last byte of memory to the first one.  An
index that is out of range ends the dump before it prints anything.

## Strategy

`dumpedRows` are the rows by the recursion that prints them.  Their labels, their sizes
and the bytes in them are found by induction along it; put together they are the bytes
of the range (`flatMap_dumpedRows`).  A line is read back into its row from its columns
(`rowOf?_dumpLine`).
-/

namespace SuperChip

namespace Memory

theorem readIndices_of_lt (memory : Memory) {index : Int} (hlow : index < -4096) (count : Nat) :
    ∃ fault, memory.readIndices index (count + 1) = .error fault ∧
      (fault = .memoryIndex ∨ fault = .indexTooWide) := by
  obtain ⟨fault, hread, hfault⟩ := memory.readIndex_of_lt hlow
  refine ⟨fault, ?_, hfault⟩
  rw [readIndices, hread]
  rfl

/-- Bytes that were written within one round are read back together. -/
theorem Written.readAll_eq {memory after : Memory} {address : Int} {values : List UInt8}
    (h : memory.Written address values after) (hround : values.length ≤ 4096) :
    after.readAll address values.length = values := by
  apply List.ext_getElem?
  intro k
  by_cases hk : k < values.length
  · rw [after.getElem?_readAll address hk, h.last k hk (by omega), List.getElem?_eq_getElem hk]
  · rw [List.getElem?_eq_none (by rw [length_readAll]; omega),
      List.getElem?_eq_none (by omega)]

end Memory

namespace Monitor

/-! ## The rows of a dump -/

/-- The rows of a dump that ends before `stop`, each an address and the bytes there. -/
def dumpedRows (memory : Memory) (stop : Int) : Int → Nat → List (Int × List UInt8)
  | _, 0 => []
  | start, rows + 1 =>
    (start, memory.readAll start (min 16 (stop - start)).toNat) ::
      dumpedRows memory stop (start + 16) rows

variable (memory : Memory) {stop start : Int} {rows : Nat}

theorem length_dumpedRows (start : Int) (rows : Nat) :
    (dumpedRows memory stop start rows).length = rows := by
  induction rows generalizing start with
  | zero => rfl
  | succ rows ih => rw [dumpedRows, List.length_cons, ih]

theorem getElem?_dumpedRows {j : Nat} (hj : j < rows) :
    (dumpedRows memory stop start rows)[j]? =
      some (start + 16 * j,
        memory.readAll (start + 16 * j) (min 16 (stop - (start + 16 * j))).toNat) := by
  induction rows generalizing start j with
  | zero => omega
  | succ rows ih =>
      cases j with
      | zero => simp [dumpedRows]
      | succ j =>
          have hlabel : start + 16 + 16 * (j : Int) = start + 16 * (j + 1 : Nat) := by omega
          rw [dumpedRows, List.getElem?_cons_succ, ih (by omega), hlabel]

/-- The rows are cut out of the bytes of the range. -/
theorem flatMap_dumpedRows (hrows : rows = ((stop - start + 15) / 16).toNat) :
    (dumpedRows memory stop start rows).flatMap Prod.snd =
      memory.readAll start (stop - start).toNat := by
  induction rows generalizing start with
  | zero =>
      have hsize : (stop - start).toNat = 0 := by omega
      rw [hsize]
      rfl
  | succ rows ih =>
      rw [dumpedRows, List.flatMap_cons, ih (by omega)]
      -- the first row is the last one, or it is full
      by_cases hlast : stop - start ≤ 16
      · have hfirst : (min 16 (stop - start)).toNat = (stop - start).toNat := by omega
        have hrest : (stop - (start + 16)).toNat = 0 := by omega
        rw [hfirst, hrest]
        exact List.append_nil _
      · have hfirst : (min 16 (stop - start)).toNat = 16 := by omega
        have hsize : (stop - start).toNat = 16 + (stop - (start + 16)).toNat := by omega
        rw [hfirst, hsize, Memory.readAll_add]
        rfl

theorem ne_nil_of_mem_dumpedRows (hrows : rows = ((stop - start + 15) / 16).toNat)
    {row : Int × List UInt8} (hrow : row ∈ dumpedRows memory stop start rows) : row.2 ≠ [] := by
  induction rows generalizing start with
  | zero => cases hrow
  | succ rows ih =>
      rcases List.mem_cons.mp hrow with rfl | hlater
      · apply List.ne_nil_of_length_pos
        rw [Memory.length_readAll]
        omega
      · exact ih (by omega) hlater

/-! ## What a line tells -/

/-- The byte that two digits tell. -/
def byteOf? (digits : List Char) : Option UInt8 :=
  if digits.length = 2 then (Numeral.natural? 16 digits).map UInt8.ofNat else none

/-- The address in a line of a dump, and the bytes in the columns behind it. -/
def rowOf? (line : List Char) : Option (Int × List UInt8) :=
  (splitAddress? (line.drop 2)).bind fun columns =>
    ((columns.2.splitOn ' ').mapM byteOf?).map fun bytes => (columns.1, bytes)

theorem byteOf?_lower (byte : UInt8) :
    byteOf? (Hexadecimal.lower 2 byte.toNat).toList = some byte := by
  rw [byteOf?, if_pos (Hexadecimal.length_lower (by decide) byte.toNat_lt),
    Hexadecimal.natural?_lower, Option.map_some, UInt8.ofNat_toNat]

theorem toList_dumpLine (start : Int) (bytes : List UInt8) :
    (dumpLine start bytes).toList =
      ' ' :: ' ' :: ((Hexadecimal.address start).toList ++ ':' :: ' ' ::
        [' '].intercalate (bytes.map fun byte => (Hexadecimal.lower 2 byte.toNat).toList)) := by
  simp [dumpLine, toString, String.toList_intercalate, Function.comp_def]

/-- A line tells its row. -/
theorem rowOf?_dumpLine (start : Int) {bytes : List UInt8} (hbytes : bytes ≠ []) :
    rowOf? (dumpLine start bytes).toList = some (start, bytes) := by
  have hsplit : ([' '].intercalate
      (bytes.map fun byte => (Hexadecimal.lower 2 byte.toNat).toList)).splitOn ' ' =
      bytes.map fun byte => (Hexadecimal.lower 2 byte.toNat).toList := by
    refine List.splitOn_intercalate ' ' ?_ (by simpa using hbytes)
    intro digits hdigits
    obtain ⟨byte, -, rfl⟩ := List.mem_map.mp hdigits
    exact Hexadecimal.not_mem_lower (by decide) 2 byte.toNat
  have hread : (bytes.map fun byte => (Hexadecimal.lower 2 byte.toNat).toList).mapM byteOf? =
      some bytes := by
    simp only [List.mapM_map, Function.comp_def, byteOf?_lower]
    exact List.mapM_pure.trans (congrArg some (List.map_id bytes))
  rw [rowOf?, toList_dumpLine, List.drop_succ_cons, List.drop_succ_cons, List.drop_zero,
    splitAddress?_append]
  simp only [Option.bind_some, hsplit, hread, Option.map_some]

/-! ## What is printed -/

variable {ρ : Type}

/-- A dump of a range that is not out of range prints its rows one after the other. -/
theorem dumpRows_eq (hrows : rows = ((stop - start + 15) / 16).toNat) (hlow : -4096 ≤ start)
    (hstop : stop ≤ 4096) (m : Monitor ρ) :
    dumpRows stop start rows m =
      ((dumpedRows m.machine.memory stop start rows).forM fun row =>
        print (dumpLine row.1 row.2)) m := by
  induction rows generalizing start m with
  | zero => rfl
  | succ rows ih =>
      have hwidth : (dumpWidth : Int) = 16 := rfl
      have hread : m.machine.memory.readIndices start (min (dumpWidth : Int) (stop - start)).toNat =
          .ok (m.machine.memory.readAll start (min 16 (stop - start)).toNat) :=
        m.machine.memory.readIndices_eq_readAll _ hlow (by omega)
      rw [dumpRows]
      simp only [bind, EStateM.bind, Attempt.get_eq, hread, Attempt.ofExcept]
      -- what is printed does not change memory
      exact ih (by omega) (by omega) _

/-- A dump that starts out of range prints nothing. -/
theorem dumpRows_of_lt (hlow : start < -4096) (hstop : start < stop) (rows : Nat) (m : Monitor ρ) :
    ∃ fault, dumpRows stop start (rows + 1) m = .error fault m ∧
      (fault = .memoryIndex ∨ fault = .indexTooWide) := by
  obtain ⟨size, hsize⟩ : ∃ size, (min (dumpWidth : Int) (stop - start)).toNat = size + 1 := by
    refine Nat.exists_eq_add_of_le' ?_
    have hwidth : (dumpWidth : Int) = 16 := rfl
    omega
  obtain ⟨fault, hread, hfault⟩ := m.machine.memory.readIndices_of_lt hlow size
  refine ⟨fault, ?_, hfault⟩
  rw [dumpRows]
  simp only [bind, EStateM.bind, Attempt.get_eq, hsize, hread, Attempt.ofExcept]
  rfl

/-- A line asks for a dump of some bytes from an address on; with no number it asks for
sixty-four. -/
def AsksForDump (machine : Machine) (line : String) (start count : Int) : Prop :=
  ∃ argument word words, MonitorLine.read line = .command .dump argument ∧
    ShellWords.split argument = .ok (word :: words) ∧
    readAddress machine word = .ok start ∧ words.head?.elim (.ok 64) readNumber = .ok count

/-- The rows of a dump of some bytes, as far as there are so many. -/
def dumped (memory : Memory) (start count : Int) : List (Int × List UInt8) :=
  dumpedRows memory (min (start + count) 4096) start
    ((min (start + count) 4096 - start + 15) / 16).toNat

theorem length_dumped (memory : Memory) (start count : Int) :
    (dumped memory start count).length = ((min (start + count) 4096 - start).toNat + 15) / 16 := by
  rw [dumped, length_dumpedRows]
  omega

theorem flatMap_dumped (memory : Memory) (start count : Int) :
    (dumped memory start count).flatMap Prod.snd =
      memory.readAll start (min (start + count) 4096 - start).toNat :=
  flatMap_dumpedRows memory rfl

theorem row_of_getElem?_dumped (memory : Memory) (start count : Int) {j : Nat} {label : Int}
    {bytes : List UInt8} (hrow : (dumped memory start count)[j]? = some (label, bytes)) :
    label = start + 16 * j ∧
      (j + 1 < (dumped memory start count).length → bytes.length = 16) ∧
        ∀ (k : Nat) (byte : UInt8), bytes[k]? = some byte →
          memory.bytes.toList[((label + k) % 4096).toNat]? = some byte := by
  obtain ⟨hj, -⟩ := List.getElem?_eq_some_iff.mp hrow
  rw [dumped, length_dumpedRows] at hj
  rw [dumped, getElem?_dumpedRows memory hj] at hrow
  cases hrow
  refine ⟨rfl, ?_, ?_⟩
  · intro hlater
    rw [dumped, length_dumpedRows] at hlater
    rw [Memory.length_readAll]
    omega
  · intro k byte hbyte
    obtain ⟨hk, -⟩ := List.getElem?_eq_some_iff.mp hbyte
    rw [Memory.length_readAll] at hk
    rw [Memory.getElem?_readAll memory _ hk] at hbyte
    rw [Memory.getElem?_toList_bytes, hbyte]

theorem map_rowOf?_dumped (memory : Memory) (start count : Int) :
    ((dumped memory start count).map fun row => dumpLine row.1 row.2).map
        (fun entry => rowOf? entry.toList) =
      (dumped memory start count).map some := by
  rw [List.map_map]
  refine List.map_congr_left fun row hrow => ?_
  rw [Function.comp_apply]
  exact rowOf?_dumpLine row.1 (ne_nil_of_mem_dumpedRows memory rfl hrow)

variable [Generator ρ] {m : Monitor ρ} {line : String} {count : Int}

theorem execute_of_asksForDump (files : Files) (hasks : AsksForDump m.machine line start count) :
    execute files line m = goOn (dumpRows (min (start + count) 4096) start
      ((min (start + count) 4096 - start + 15) / 16).toNat) m := by
  obtain ⟨argument, word, words, hline, hwords, hstart, hcount⟩ := hasks
  have hdump : dump argument m = dumpRows (min (start + count) 4096) start
      ((min (start + count) 4096 - start + 15) / 16).toNat m := by
    cases words with
    | nil =>
        obtain rfl : 64 = count := Except.ok.inj hcount
        simp only [dump, bind, EStateM.bind, splitWords_of_split hwords,
          address_of_readAddress hstart]
        rfl
    | cons number rest =>
        rw [List.head?_cons, Option.elim_some] at hcount
        simp only [dump, bind, EStateM.bind, splitWords_of_split hwords,
          address_of_readAddress hstart, ofExcept_readNumber hcount]
        rfl
  simp only [execute, hline, perform, goOn, bind, EStateM.bind, hdump]

/-- A dump that does not start out of range. -/
theorem execute_of_dumped (files : Files) (hasks : AsksForDump m.machine line start count)
    (hlow : -4096 ≤ start) :
    execute files line m = .ok false { m with
      printed := m.printed ++
        ((dumped m.machine.memory start count).map fun row => dumpLine row.1 row.2).toArray } := by
  rw [execute_of_asksForDump files hasks]
  simp only [goOn, bind, EStateM.bind, dumpRows_eq rfl hlow (Int.min_le_right _ _), forM_print]
  rfl

/-! ## Bytes that were set -/

/-- A line asks to write these words, of which there is one at least, from an address on. -/
def AsksForBytes (machine : Machine) (line : String) (start : Int) (words : List String) : Prop :=
  words ≠ [] ∧ ∃ argument word, MonitorLine.read line = .command .setmem argument ∧
    ShellWords.split argument = .ok (word :: words) ∧ readAddress machine word = .ok start

/-- A line that wrote its words wrote numbers, and left the bytes of them in memory. -/
theorem exists_written_of_setmem {files : Files} {before : Monitor ρ} {words : List String}
    {stop : Bool} (hasks : AsksForBytes before.machine line start words)
    (hexecute : execute files line before = .ok stop m) :
    ∃ numbers, ReadAs words numbers ∧
      before.machine.memory.Written start (numbers.map lowByte) m.machine.memory := by
  obtain ⟨hsome, argument, word, hline, hwords, hstart⟩ := hasks
  rw [execute_of_setmem files hline hwords hsome] at hexecute
  rcases readAs_or_refused words with ⟨numbers, hnumbers⟩ | hrefused
  · simp only [goOn, bind, EStateM.bind, address_of_readAddress hstart,
      writeBytes_of_readAs hnumbers] at hexecute
    have hmemory : m.machine.memory =
        (before.poked start (numbers.map lowByte)).machine.memory := by
      cases hexecute
      rfl
    rw [hmemory]
    exact ⟨numbers, hnumbers, before.written_poked start _⟩
  · obtain ⟨front, word, behind, numbers, cause, rfl, hfront, hword⟩ :=
      exists_first_refused hrefused
    simp only [goOn, bind, EStateM.bind, address_of_readAddress hstart, writeBytes_append hfront,
      writeBytes_of_refused hword] at hexecute
    cases hexecute

/-- **What a dump shows.**  A dump from an address that is not out of range shows the bytes
from there to the end of the range or of memory, each once and in order, sixteen in a row
but for the last row; every row starts with the address of its first byte, and an address
means the byte that it leaves modulo the size of memory.  A dump that starts out of range
fails and prints nothing.  Behind a successful `setmem` that stayed in memory, a dump of
the same range shows the numbers that were written, modulo 256. -/
theorem dump_shows_range (files : Files) (hasks : AsksForDump m.machine line start count) :
    let size := (min (start + count) 4096 - start).toNat
    (-4096 ≤ start → ∃ (printed : List String) (rows : List (Int × List UInt8)),
      execute files line m = .ok false { m with printed := m.printed ++ printed.toArray } ∧
      (printed.map fun entry => rowOf? entry.toList) = rows.map some ∧
      rows.length = (size + 15) / 16 ∧
      (∀ (j : Nat) (label : Int) (bytes : List UInt8), rows[j]? = some (label, bytes) →
        label = start + 16 * j ∧ (j + 1 < rows.length → bytes.length = 16) ∧
          ∀ (k : Nat) (byte : UInt8), bytes[k]? = some byte →
            m.machine.memory.bytes.toList[((label + k) % 4096).toNat]? = some byte) ∧
      (rows.flatMap Prod.snd).length = size ∧
      (∀ k < size, (rows.flatMap Prod.snd)[k]? =
        m.machine.memory.bytes.toList[((start + k) % 4096).toNat]?) ∧
      ∀ files earlier (before : Monitor ρ) words stop,
        AsksForBytes before.machine earlier start words →
          execute files earlier before = .ok stop m →
          0 ≤ start → start + words.length ≤ 4096 → count = words.length →
          ∃ numbers, ReadAs words numbers ∧
            ((rows.flatMap Prod.snd).map fun byte => (byte.toNat : Int)) =
              numbers.map (· % 256)) ∧
    (start < -4096 → 1 ≤ count →
      ∃ fault, (fault = .memoryIndex ∨ fault = .indexTooWide) ∧
        execute files line m = .error fault m) := by
  intro size
  constructor
  · intro hlow
    have hexecute := execute_of_dumped files hasks hlow
    have hbytes := flatMap_dumped m.machine.memory start count
    refine ⟨_, dumped m.machine.memory start count, hexecute,
      map_rowOf?_dumped m.machine.memory start count,
      length_dumped m.machine.memory start count, ?_, ?_, ?_, ?_⟩
    · intro j label bytes hrow
      exact row_of_getElem?_dumped m.machine.memory start count hrow
    · rw [hbytes, Memory.length_readAll]
    · intro k hk
      rw [hbytes, Memory.getElem?_readAll _ _ hk, Memory.getElem?_toList_bytes]
    · intro files earlier before words stop hearlier hwrote hinside hfits hcount
      obtain ⟨numbers, hnumbers, hwritten⟩ := exists_written_of_setmem hearlier hwrote
      have hlength : words.length = (numbers.map lowByte).length := by
        rw [List.length_map]
        exact hnumbers.length_eq
      have hsize : (min (start + count) 4096 - start).toNat = (numbers.map lowByte).length := by
        omega
      refine ⟨numbers, hnumbers, ?_⟩
      rw [hbytes, hsize, hwritten.readAll_eq (by omega), List.map_map]
      exact List.map_congr_left fun number _ => toNat_lowByte number
  · intro hlow hcount
    obtain ⟨rows, hrows⟩ :
        ∃ rows, ((min (start + count) 4096 - start + 15) / 16).toNat = rows + 1 :=
      Nat.exists_eq_add_of_le' (by omega)
    obtain ⟨fault, hfails, hfault⟩ :=
      dumpRows_of_lt hlow (by omega : start < min (start + count) 4096) rows m
    refine ⟨fault, hfault, ?_⟩
    rw [execute_of_asksForDump files hasks, hrows]
    simp only [goOn, bind, EStateM.bind, hfails]

/-- Eight bytes at the end of memory and sixteen at its beginning, in two rows; three numbers
that were set, of which one is too large for a byte and one is negative; and a dump that
starts in front of all indices. -/
theorem dump_shows_range_across_end :
    ∃ c : Console Cycle, Console.assemble "schip" 10 false (.ofList [0]) = .ok c ∧
      let m := observing ((Move.load [0x12, 0x00]).after c)
      (AsksForDump m.machine "dump -8 24" (-8) 24 ∧ (-4096 : Int) ≤ -8 ∧
        ∃ (printed : List String) (rows : List (Int × List UInt8)),
          execute Folder.empty.files "dump -8 24" m =
              .ok false { m with printed := m.printed ++ printed.toArray } ∧
            (printed.map fun entry => rowOf? entry.toList) = rows.map some ∧
            rows.length = 2 ∧
            ∀ k : Nat, k < 24 → (rows.flatMap Prod.snd)[k]? =
              m.machine.memory.bytes.toList[((-8 + k : Int) % 4096).toNat]?) ∧
      (AsksForBytes m.machine "setmem 0x300 1 300 -1" 0x300 ["1", "300", "-1"] ∧
        ∃ after, execute Folder.empty.files "setmem 0x300 1 300 -1" m = .ok false after ∧
          AsksForDump after.machine "dump 0x300 3" 0x300 3 ∧
          ∃ (printed : List String) (rows : List (Int × List UInt8)),
            execute Folder.empty.files "dump 0x300 3" after =
                .ok false { after with printed := after.printed ++ printed.toArray } ∧
              (printed.map fun entry => rowOf? entry.toList) = rows.map some ∧
              ((rows.flatMap Prod.snd).map fun byte => (byte.toNat : Int)) = [1, 44, 255]) ∧
      AsksForDump m.machine "dump -4097 1" (-4097) 1 ∧
        ∃ fault, (fault = .memoryIndex ∨ fault = .indexTooWide) ∧
          execute Folder.empty.files "dump -4097 1" m = .error fault m := by
  have hassembled : Console.assemble "schip" 10 false (Cycle.ofList [0]) = .ok _ := rfl
  refine ⟨_, hassembled, ?_⟩
  intro m
  refine ⟨?across, ?set, ?before⟩
  case across =>
    have hline : MonitorLine.read "dump -8 24" = .command .dump "-8 24" := by decide +kernel
    have hwords : ShellWords.split "-8 24" = .ok ["-8", "24"] := by decide +kernel
    have hasks : AsksForDump m.machine "dump -8 24" (-8) 24 :=
      ⟨"-8 24", "-8", ["24"], hline, hwords, rfl, rfl⟩
    obtain ⟨printed, rows, hexecute, hprinted, hrows, -, -, hbytes, -⟩ :=
      (dump_shows_range Folder.empty.files hasks).1 (by decide)
    exact ⟨hasks, by decide, printed, rows, hexecute, hprinted, hrows, hbytes⟩
  case set =>
    have hset : MonitorLine.read "setmem 0x300 1 300 -1" = .command .setmem "0x300 1 300 -1" := by
      decide +kernel
    have hwords : ShellWords.split "0x300 1 300 -1" = .ok ["0x300", "1", "300", "-1"] := by
      decide +kernel
    have hearlier : AsksForBytes m.machine "setmem 0x300 1 300 -1" 0x300 ["1", "300", "-1"] :=
      ⟨by decide, "0x300 1 300 -1", "0x300", hset, hwords, rfl⟩
    have hread : ReadAs ["1", "300", "-1"] [1, 300, -1] :=
      .cons rfl (.cons rfl (.cons rfl .nil))
    obtain ⟨after, hafter⟩ :
        ∃ after, execute Folder.empty.files "setmem 0x300 1 300 -1" m = .ok false after := by
      have haddress : address "0x300" m = .ok 0x300 m := rfl
      rw [execute_of_setmem Folder.empty.files hset hwords (by decide)]
      simp only [goOn, bind, EStateM.bind, haddress, writeBytes_of_readAs hread]
      exact ⟨_, rfl⟩
    have hline : MonitorLine.read "dump 0x300 3" = .command .dump "0x300 3" := by decide +kernel
    have hrange : ShellWords.split "0x300 3" = .ok ["0x300", "3"] := by decide +kernel
    have hasks : AsksForDump after.machine "dump 0x300 3" 0x300 3 :=
      ⟨"0x300 3", "0x300", ["3"], hline, hrange, rfl, rfl⟩
    obtain ⟨printed, rows, hexecute, hprinted, -, -, -, -, hshown⟩ :=
      (dump_shows_range Folder.empty.files hasks).1 (by decide)
    obtain ⟨numbers, hnumbers, hbytes⟩ := hshown Folder.empty.files _ m _ false hearlier hafter
      (by decide) (by decide) (by decide)
    obtain rfl : numbers = [1, 300, -1] := by
      rcases hnumbers with _ | ⟨hone, _ | ⟨htwo, _ | ⟨hthree, ⟨⟩⟩⟩⟩
      cases hone
      cases htwo
      cases hthree
      rfl
    exact ⟨hearlier, after, hafter, hasks, printed, rows, hexecute, hprinted, hbytes⟩
  case before =>
    have hline : MonitorLine.read "dump -4097 1" = .command .dump "-4097 1" := by decide +kernel
    have hwords : ShellWords.split "-4097 1" = .ok ["-4097", "1"] := by decide +kernel
    have hasks : AsksForDump m.machine "dump -4097 1" (-4097) 1 :=
      ⟨"-4097 1", "-4097", ["1"], hline, hwords, rfl, rfl⟩
    exact ⟨hasks, (dump_shows_range Folder.empty.files hasks).2 (by decide) (by decide)⟩

end Monitor

end SuperChip
