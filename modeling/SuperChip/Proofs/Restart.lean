import SuperChip.Proofs.RandomBytes

/-!
# A restart forgets the past

A restart either refuses a program and leaves everything as it was, or puts the
machine into the one state that `Machine.AtStart` describes: fonts and program in
memory, everything else at rest, and the persistent flags as they were.  Two
engines that are restarted with one program therefore differ in nothing but their
flags, and engines with the same flags cannot be told apart from then on.

## Strategy

What is in memory is computed from three blocks that are written one after the
other.  `toList_writeAll` says that a block replaces a segment of the bytes, and
three segments of a list of zeros give the list that `AtStart` names.  Everything
else about the start is read off the restarted machine.  The future of two
restarted engines is that of two engines that stay together (`Together`).
-/

namespace SuperChip

/-! ## Blocks of memory -/

namespace Memory

theorem toList_write_of_lt (memory : Memory) {address : Nat} (haddress : address < 4096)
    (value : UInt8) :
    (memory.write address value).bytes.toList = memory.bytes.toList.set address value := by
  have hcell : (cell address).val = address := by
    simp only [cell]
    omega
  simp only [write, Vector.toList_set, hcell]

/-- A block that fits replaces the bytes at its addresses. -/
theorem toList_writeAll (memory : Memory) (start : Nat) (block : List UInt8)
    (hfits : start + block.length ≤ 4096) :
    (memory.writeAll start block).bytes.toList =
      memory.bytes.toList.take start ++ block ++
        memory.bytes.toList.drop (start + block.length) := by
  induction block generalizing memory start with
  | nil => simp [writeAll]
  | cons value rest ih =>
      rw [List.length_cons] at hfits ⊢
      have hlength : memory.bytes.toList.length = 4096 := memory.bytes.length_toList
      have hnext : (start : Int) + 1 = ((start + 1 : Nat) : Int) := by omega
      have hrest := ih (memory.write start value) (start + 1) (by omega)
      -- the first byte extends the front, and the rest is written behind it
      rw [toList_write_of_lt memory (by omega) value, List.take_add_one,
        List.take_set_of_le (Nat.le_refl start), List.drop_set_of_lt (by omega),
        List.getElem?_set_self (by omega)] at hrest
      rw [writeAll, hnext, hrest]
      simp [Nat.add_assoc, Nat.add_comm 1]

/-- A block right behind what is in memory already takes the place of zeros. -/
theorem toList_writeAll_behind {memory : Memory} {front : List UInt8} {zeros : Nat}
    (hmemory : memory.bytes.toList = front ++ List.replicate zeros 0) {block : List UInt8}
    (hfits : block.length ≤ zeros) :
    (memory.writeAll front.length block).bytes.toList =
      front ++ block ++ List.replicate (zeros - block.length) 0 := by
  have hlength : front.length + zeros = 4096 := by
    have hsize := memory.bytes.length_toList
    rw [hmemory, List.length_append, List.length_replicate] at hsize
    exact hsize
  rw [toList_writeAll memory _ _ (by omega), hmemory, List.take_left, List.drop_append,
    List.drop_eq_nil_of_le (by omega), List.nil_append, List.drop_replicate,
    Nat.add_sub_cancel_left]

/-- The bytes of memory as a program finds it. -/
theorem toList_withProgram {program : List UInt8} (hfits : program.length ≤ 3584) :
    (withProgram program).bytes.toList =
      Font.small ++ Font.big ++ List.replicate 272 0 ++ program ++
        List.replicate (3584 - program.length) 0 := by
  have hsmall := Font.length_small
  have hbig := Font.length_big
  have hzeros : zeroed.bytes.toList = [] ++ List.replicate 4096 0 := Vector.toList_replicate
  have hsmallFits : Font.small.length ≤ 4096 := by omega
  have hfirst := toList_writeAll_behind hzeros hsmallFits
  rw [List.nil_append] at hfirst
  have hbigFits : Font.big.length ≤ 4096 - Font.small.length := by omega
  have hsecond := toList_writeAll_behind hfirst hbigFits
  -- the zeros between the fonts and the program stay
  have hgap : List.replicate (4096 - Font.small.length - Font.big.length) (0 : UInt8) =
      List.replicate 272 0 ++ List.replicate 3584 0 := by
    rw [List.replicate_append_replicate, hsmall, hbig]
  rw [hgap, ← List.append_assoc] at hsecond
  have hthird := toList_writeAll_behind hsecond hfits
  have hbase : (Font.small ++ Font.big ++ List.replicate 272 (0 : UInt8)).length =
      programStart := by
    simp only [List.length_append, List.length_replicate, hsmall, hbig, programStart]
  rw [hbase, hsmall] at hthird
  exact hthird

end Memory

namespace Machine

attribute [ext] Memory Plane Machine

/-- A machine at the start of a program, with these persistent flags. -/
structure AtStart (m : Machine) (program : List UInt8) (flags : Vector UInt8 8) : Prop where
  memory : m.memory.bytes.toList =
    Font.small ++ Font.big ++ List.replicate 272 0 ++ program ++
      List.replicate (3584 - program.length) 0
  registers : m.v.toList = List.replicate 16 0
  i : m.i = 0
  pc : m.pc = 0x200
  stack : m.stack.toList = List.replicate 16 0
  sp : m.sp = 0
  delay : m.delay = 0
  sound : m.sound = 0
  plane : m.plane.pixels.toList = List.replicate 8192 0
  resolution : m.resolution = .low
  picture : (m.resolution.width, m.resolution.height) = (64, 32)
  keys : m.keys.toList = List.replicate 16 0
  redraw : m.redraw = true
  beep : m.beep = false
  waiting : m.waiting = false
  awaitedRegister : m.awaitedRegister.val = 0
  flags : m.flags = flags

theorem atStart_restarted (m : Machine) {program : List UInt8} (hfits : program.length ≤ 3584) :
    (m.restarted program).AtStart program m.flags where
  memory := Memory.toList_withProgram hfits
  registers := Vector.toList_replicate
  i := rfl
  pc := rfl
  stack := Vector.toList_replicate
  sp := rfl
  delay := rfl
  sound := rfl
  plane := Vector.toList_replicate
  resolution := rfl
  picture := rfl
  keys := Vector.toList_replicate
  redraw := rfl
  beep := rfl
  waiting := rfl
  awaitedRegister := rfl
  flags := rfl

/-- There is one state at the start of a program. -/
theorem AtStart.eq {m other : Machine} {program : List UInt8} {flags : Vector UInt8 8}
    (hm : m.AtStart program flags) (hother : other.AtStart program flags) : m = other := by
  apply Machine.ext
  case memory => exact Memory.ext (Vector.toList_inj.mp (hm.memory.trans hother.memory.symm))
  case v => exact Vector.toList_inj.mp (hm.registers.trans hother.registers.symm)
  case stack => exact Vector.toList_inj.mp (hm.stack.trans hother.stack.symm)
  case plane => exact Plane.ext (Vector.toList_inj.mp (hm.plane.trans hother.plane.symm))
  case keys => exact Vector.toList_inj.mp (hm.keys.trans hother.keys.symm)
  case awaitedRegister => exact Fin.ext (hm.awaitedRegister.trans hother.awaitedRegister.symm)
  -- the other parts are numbers and switches, of which the start names the value
  all_goals
    obtain ⟨⟩ := hm
    obtain ⟨⟩ := hother
    simp only [*]

/-- The flags are all that a restart leaves of a machine. -/
theorem restarted_eq_iff (m other : Machine) (program : List UInt8) :
    m.restarted program = other.restarted program ↔ m.flags = other.flags := by
  constructor
  · intro h
    simpa [restarted] using congrArg Machine.flags h
  · intro h
    rw [restarted, restarted, h]

end Machine

/-! ## Engines -/

namespace Engine

variable {ρ₁ ρ₂ : Type} [Generator ρ₁] [Generator ρ₂]

/-- **A restart forgets the past.**  An engine refuses a program exactly if it has
more than 3584 bytes, and then it stays as it is; any other program brings its
machine to the start of that program and changes nothing else of the engine.
After it, two engines differ only if their flags do: with the same flags, the
same variant and the same numbers to draw they have the same machine after any
actions and meet the same faults, whatever they did before. -/
theorem restart_forgets (first : Engine ρ₁) (second : Engine ρ₂) (program : List UInt8) :
    (3584 < program.length →
      restart program first = .error (.programTooLarge program.length) first) ∧
    (program.length ≤ 3584 →
      ∃ started : Machine,
        restart program first = .ok () { first with machine := started } ∧
        started.AtStart program first.machine.flags ∧
        ∀ m : Machine, m.AtStart program first.machine.flags → m = started) ∧
    (program.length ≤ 3584 →
      ((first.after (.restart program)).machine = (second.after (.restart program)).machine ↔
        first.machine.flags = second.machine.flags)) ∧
    (program.length ≤ 3584 → first.variant = second.variant →
      first.machine.flags = second.machine.flags →
      (∀ n, drawn first.random n = drawn second.random n) →
      ∀ actions : List HostAction,
        let first' := first.after (.restart program)
        let second' := second.after (.restart program)
        (first'.afterAll actions).machine = (second'.afterAll actions).machine ∧
          first'.faults actions = second'.faults actions) := by
  refine ⟨?_, ?_, ?_, ?_⟩
  · intro hsize
    exact restart_of_too_large first hsize
  · intro hfits
    have hstart := first.machine.atStart_restarted hfits
    exact ⟨first.machine.restarted program, restart_of_fits first hfits, hstart,
      fun m hm => hm.eq hstart⟩
  · intro hfits
    rw [after_restart first hfits, after_restart second hfits]
    exact Machine.restarted_eq_iff _ _ program
  · intro hfits hvariant hflags hdrawn actions first' second'
    have hfirst : first' = { first with machine := first.machine.restarted program } :=
      after_restart first hfits
    have hsecond : second' = { second with machine := second.machine.restarted program } :=
      after_restart second hfits
    have htogether : Together first' second' := by
      rw [hfirst, hsecond]
      exact ⟨hvariant, (Machine.restarted_eq_iff _ _ program).mpr hflags, .of_drawn_eq hdrawn⟩
    exact ⟨(htogether.afterAll actions).machine, htogether.faults actions⟩

/-- One engine has run a program that drew a random byte and the other one has run
nothing; the source gives sevens to both. -/
theorem restart_forgets_drawing :
    let second : Engine Cycle := fresh .schip false false (.ofList [7])
    let first := (second.after (.restart [0xC1, 0xFF])).after .step
    let program : List UInt8 := [0x62, 0x09, 0xC3, 0x0F]
    let actions : List HostAction := [.step, .tick, .step, .writeKey 3 1]
    first.machine.v.get 1 ≠ second.machine.v.get 1 ∧
      first.machine.flags = second.machine.flags ∧ first.random ≠ second.random ∧
      (∀ n, drawn first.random n = drawn second.random n) ∧ program.length ≤ 3584 ∧
      ((first.after (.restart program)).afterAll actions).machine =
        ((second.after (.restart program)).afterAll actions).machine := by
  intro second first program actions
  obtain ⟨hdiffer, hflags, hrandom⟩ : first.machine.v.get 1 ≠ second.machine.v.get 1 ∧
      first.machine.flags = second.machine.flags ∧ first.random = ⟨[7], []⟩ := by
    decide +kernel
  have hvariant : first.variant = second.variant := by
    simp only [first, after_variant]
  have hsevens : ∀ n (upcoming : List Int), upcoming = [] ∨ upcoming = [7] →
      drawn (Cycle.mk [7] upcoming) n = 7 := by
    intro n
    induction n with
    | zero =>
        rintro upcoming (rfl | rfl)
        · rfl
        · rfl
    | succ n ih =>
        rintro upcoming (rfl | rfl)
        · exact ih [] (.inl rfl)
        · exact ih [] (.inl rfl)
  have hdrawn : ∀ n, drawn first.random n = drawn second.random n := by
    intro n
    rw [hrandom, hsevens n [] (.inl rfl)]
    exact (hsevens n [7] (.inr rfl)).symm
  have hfits : program.length ≤ 3584 := by decide
  have hforgets :=
    (restart_forgets first second program).2.2.2 hfits hvariant hflags hdrawn actions
  refine ⟨hdiffer, hflags, ?_, hdrawn, hfits, hforgets.1⟩
  rw [hrandom]
  decide

end Engine

end SuperChip
