import SuperChip.Proofs.StepFrame
import SuperChip.Proofs.Superset
import SuperChip.Proofs.WrittenBytes

/-!
# Registers that are put away and fetched back

A program has two places outside the registers: memory, of which the index register
says where, and the persistent flags.  What it puts there comes back unchanged.  Memory
is a ring and the index register reaches further than one round, so the bytes may lie
across the end of memory, in front of everything else.

## Strategy

`Stored`, `Loaded` and `Converted` say what an opcode makes of a machine, and
`Opcode.Achieves` that it does so wherever it is performed.  A byte is found again
because at most sixteen are written, so that none comes round to the cell of another
(`Memory.Written`).  The persistent flags survive every action of a host, and every step
that fetches another opcode (`flags_after`), so they survive whole runs of these.
-/

namespace SuperChip

/-! ## Opcodes that transfer -/

theorem Opcode.toNat_of_isTransfer {op : Opcode} {code : Nat} (h : op.IsTransfer code) :
    op.toNat = 0xF000 + op.x.val * 256 + code := by
  obtain ⟨hfamily, hcode⟩ := h
  rw [toNat_kk] at hcode
  rw [toNat, hfamily]
  omega

theorem Instruction.decodeIn_of_isTransfer {variant : Variant} {op : Opcode} {code : Nat}
    (hop : op.IsTransfer code) {instruction : Instruction}
    (hword : instruction.word = 0xF000 + op.x.val * 256 + code) (hwritable : instruction.Writable)
    (hdefined : instruction.definedIn variant = true) :
    decodeIn variant op = some instruction := by
  have hdecode : decode op = some instruction :=
    decode_eq_some_iff.mpr ⟨(Opcode.toNat_of_isTransfer hop).trans hword.symm, hwritable⟩
  exact Option.filter_eq_some_iff.mpr ⟨hdecode, hdefined⟩

/-- Wherever an opcode is performed, alone or by the step that fetches it, the machine
before is in a relation to the one after, and there is no fault. -/
structure Opcode.Achieves (ρ : Type) [Generator ρ] (variant : Variant) (op : Opcode)
    (relation : Machine → Machine → Prop) : Prop where
  perform : ∀ (m : Machine) (random : ρ),
    (m.perform variant random op).1.EndsIn (relation m)
  step : ∀ (m : Machine) (random : ρ), m.WellFormed → m.Fetches op →
    (m.step variant random).1.fault = none ∧ relation m (m.step variant random).1.machine

/-- An opcode achieves what its instruction achieves, if the program counter has nothing
to do with it. -/
theorem Opcode.achieves_of_execute (ρ : Type) [Generator ρ] {variant : Variant} {op : Opcode}
    {instruction : Instruction} (hdecode : Instruction.decodeIn variant op = some instruction)
    {relation : Machine → Machine → Prop}
    (hexecute : ∀ (m : Machine) (number : Int),
      (m.execute variant number instruction).EndsIn (relation m))
    (hfetched : ∀ {m after : Machine}, relation m.fetched after → relation m after) :
    op.Achieves ρ variant relation := by
  have hperform : ∀ (m : Machine) (random : ρ),
      (m.perform variant random op).1.EndsIn (relation m) := by
    intro m random
    obtain ⟨number, heffect⟩ := Machine.exists_perform_eq_execute (m := m) variant random hdecode
    rw [heffect]
    exact hexecute m number
  -- a step performs the opcode on the machine behind the fetch
  refine ⟨hperform, ?_⟩
  intro m random hm hop
  rw [Machine.step_of_opcode variant random (hm.fetches_iff.mp hop)]
  obtain ⟨hfault, hrelation⟩ := (hperform m.fetched random).outcome m.fetched.pc op.toNat
  exact ⟨hfault, hfetched hrelation⟩

theorem Memory.read_eq_of_same_cell (memory : Memory) {address other : Int}
    (h : (address - other) % 4096 = 0) : memory.read address = memory.read other := by
  have hcell : cell address = cell other := by
    apply Fin.ext
    simp only [cell]
    omega
  simp only [read, hcell]

namespace Machine

/-! ## Memory -/

/-- What storing the registers up to one of them makes of a machine. -/
structure Stored (x : Fin 16) (m after : Machine) : Prop where
  bytes : ∀ (address : Int) (register : Fin 16), (address - m.i) % 4096 = register.val →
    register ≤ x → after.memory.read address = m.v.get register
  others : ∀ address : Int, (x.val : Int) < (address - m.i) % 4096 →
    after.memory.read address = m.memory.read address
  index : after.i = m.i
  registers : after.v = m.v

/-- What loading the registers up to one of them makes of a machine. -/
structure Loaded (x : Fin 16) (m after : Machine) : Prop where
  registers : ∀ register, register ≤ x → after.v.get register = m.memory.read (m.i + register.val)
  others : ∀ register, x < register → after.v.get register = m.v.get register
  index : after.i = m.i
  memory : after.memory = m.memory

/-- What storing the decimal digits of a register makes of a machine: the hundreds, the
tens and the units of its value stand one after the other. -/
structure Converted (x : Fin 16) (m after : Machine) : Prop where
  digits : ∃ hundreds tens units : UInt8, hundreds ≤ 2 ∧ tens ≤ 9 ∧ units ≤ 9 ∧
    100 * hundreds.toNat + 10 * tens.toNat + units.toNat = (m.v.get x).toNat ∧
    m.memory.Written m.i [hundreds, tens, units] after.memory
  index : after.i = m.i
  registers : after.v = m.v

variable {variant : Variant} {op : Opcode}

theorem stored_writeAll (m : Machine) (x : Fin 16) :
    Stored x m { m with memory := m.memory.writeAll m.i (m.v.toList.take (x.val + 1)) } := by
  have hwritten := Memory.written_writeAll m.memory m.i (m.v.toList.take (x.val + 1))
  have hlength : (m.v.toList.take (x.val + 1)).length = x.val + 1 := by
    rw [List.length_take, Vector.length_toList]
    omega
  refine { bytes := ?_, others := ?_, index := rfl, registers := rfl }
  · intro address register hplace hle
    -- sixteen bytes at most, so that none comes round to this cell
    have hcell : (address - (m.i + register.val)) % 4096 = 0 := by omega
    have hlast := hwritten.last register.val (by omega) (by omega)
    rw [Memory.read_eq_of_same_cell _ hcell, hlast, List.getElem_take, Vector.getElem_toList]
    rfl
  · intro address hplace
    apply hwritten.others
    intro k hk
    omega

theorem loaded_loadedRegisters (m : Machine) (x : Fin 16) :
    Loaded x m { m with v := m.loadedRegisters x } where
  registers register hle := by rw [loadedRegisters, Slots.get_ofFn, if_pos hle]
  others _ hlt := m.get_loadedRegisters_of_lt hlt
  index := rfl
  memory := rfl

theorem converted_decimalDigits (m : Machine) (x : Fin 16) :
    Converted x m { m with memory := m.memory.writeAll m.i (decimalDigits (m.v.get x)) } := by
  have hbyte := (m.v.get x).toNat_lt
  refine { digits := ⟨_, _, _, ?_, ?_, ?_, ?_, Memory.written_writeAll _ _ _⟩
           index := rfl, registers := rfl }
  all_goals
    simp only [UInt8.le_iff_toNat_le, UInt8.toNat_div, UInt8.toNat_mod, UInt8.reduceToNat]
    omega

/-- What is stored in memory is loaded again, whatever else happens to the machine. -/
theorem Stored.loaded {x : Fin 16} {m after later last : Machine} (hstored : Stored x m after)
    (hmemory : later.memory = after.memory) (hindex : later.i = after.i)
    (hloaded : Loaded x later last) {register : Fin 16} (hle : register ≤ x) :
    last.v.get register = m.v.get register := by
  rw [hloaded.registers register hle, hmemory, hindex, hstored.index]
  exact hstored.bytes _ register (by omega) hle

/-! ## The persistent flags -/

/-- The registers up to one of them are saved in the persistent flags, as far as there are
any. -/
def Saved (x : Fin 16) (m after : Machine) : Prop :=
  ∀ (register : Fin 16) (hflag : register.val < 8), register ≤ x →
    after.flags.get ⟨register.val, hflag⟩ = m.v.get register

/-- The registers up to one of them are loaded from the persistent flags, as far as there
are any. -/
def Restored (x : Fin 16) (m after : Machine) : Prop :=
  ∀ (register : Fin 16) (hflag : register.val < 8), register ≤ x →
    after.v.get register = m.flags.get ⟨register.val, hflag⟩

theorem saved_savedFlags (m : Machine) (x : Fin 16) :
    Saved x m { m with flags := m.savedFlags x } := by
  intro register hflag hle
  rw [savedFlags, Slots.get_ofFn, if_pos (Fin.le_def.mp hle)]
  rfl

theorem restored_restoredRegisters (m : Machine) (x : Fin 16) :
    Restored x m { m with v := m.restoredRegisters x } := by
  intro register hflag hle
  rw [restoredRegisters, Slots.get_ofFn, dif_pos hflag, if_pos hle]

variable {ρ : Type} [Generator ρ]

/-- A step that saves no flags keeps them. -/
theorem flags_step {m : Machine} (hm : m.WellFormed) (variant : Variant) (random : ρ)
    (hother : ∀ op ∈ m.fetched?, ¬ op.IsTransfer 0x75) :
    (m.step variant random).1.machine.flags = m.flags := by
  cases hnext : m.next with
  | await =>
      obtain ⟨v, waiting, hresolved⟩ := m.exists_resolveWait_eq
      rw [step_of_await variant random hnext, hresolved]
  | overrun => rw [step_of_overrun variant random hnext]
  | unfetched fault => rw [step_of_unfetched variant random hnext]
  | opcode op =>
      have hframe : m.StepFrame variant op _ :=
        stepFrame_of_fetches hm (hm.fetches_iff.mpr hnext) random
      exact hframe.flags fun hsave => hother op (by simp [fetched?, hnext]) hsave.2

end Machine

namespace Engine

variable {ρ : Type} [Generator ρ]

/-- No action but a step that saves them changes the persistent flags. -/
theorem flags_after {e : Engine ρ} (hm : e.machine.WellFormed) {action : HostAction}
    (hother : ∀ op ∈ action.fetched? e.machine, ¬ op.IsTransfer 0x75) :
    (e.after action).machine.flags = e.machine.flags := by
  rw [after_machine]
  cases action with
  | step => exact Machine.flags_step hm e.variant e.random hother
  | restart program =>
      simp only [outcome, HostAction.outcome, Machine.restart]
      split <;> rfl
  | loadBlock address block =>
      simp only [outcome, HostAction.outcome, Machine.loadBlock]
      cases e.machine.memory.load address block <;> rfl
  | _ => rfl

theorem flags_afterAll {e : Engine ρ} (hm : e.machine.WellFormed) {actions : List HostAction}
    (hother : ∀ op ∈ e.fetched actions, ¬ op.IsTransfer 0x75) :
    (e.afterAll actions).machine.flags = e.machine.flags := by
  induction actions generalizing e with
  | nil => rfl
  | cons action rest ih =>
      have hafter : (e.after action).machine.WellFormed := wellFormed_afterAll hm [action]
      have hfirst : ∀ op ∈ action.fetched? e.machine, ¬ op.IsTransfer 0x75 :=
        fun op hop => hother op (by simp [fetched, Option.mem_def.mp hop])
      have hrest : ∀ op ∈ (e.after action).fetched rest, ¬ op.IsTransfer 0x75 :=
        fun op hop => hother op (by simp [fetched, hop])
      rw [afterAll, ih hafter hrest, flags_after hm hfirst]

end Engine

/-! ## What the opcodes achieve -/

namespace Opcode

variable (ρ : Type) [Generator ρ] (variant : Variant) {op : Opcode}

theorem achieves_stored (hop : op.IsTransfer 0x55) :
    op.Achieves ρ variant (Machine.Stored op.x) :=
  have hdecode : Instruction.decodeIn variant op = some (.store op.x) :=
    Instruction.decodeIn_of_isTransfer hop rfl trivial (by cases variant <;> rfl)
  achieves_of_execute ρ hdecode (fun m _ => m.stored_writeAll op.x)
    fun h => ⟨h.bytes, h.others, h.index, h.registers⟩

theorem achieves_loaded (hop : op.IsTransfer 0x65) :
    op.Achieves ρ variant (Machine.Loaded op.x) :=
  have hdecode : Instruction.decodeIn variant op = some (.load op.x) :=
    Instruction.decodeIn_of_isTransfer hop rfl trivial (by cases variant <;> rfl)
  achieves_of_execute ρ hdecode (fun m _ => m.loaded_loadedRegisters op.x)
    fun h => ⟨h.registers, h.others, h.index, h.memory⟩

theorem achieves_converted (hop : op.IsTransfer 0x33) :
    op.Achieves ρ variant (Machine.Converted op.x) :=
  have hdecode : Instruction.decodeIn variant op = some (.decimal op.x) :=
    Instruction.decodeIn_of_isTransfer hop rfl trivial (by cases variant <;> rfl)
  achieves_of_execute ρ hdecode (fun m _ => m.converted_decimalDigits op.x)
    fun h => ⟨h.digits, h.index, h.registers⟩

theorem achieves_saved (hop : op.IsTransfer 0x75) :
    op.Achieves ρ .schip (Machine.Saved op.x) :=
  have hdecode : Instruction.decodeIn .schip op = some (.saveFlags op.x) :=
    Instruction.decodeIn_of_isTransfer hop rfl trivial rfl
  achieves_of_execute ρ hdecode (fun m _ => m.saved_savedFlags op.x) fun h => h

theorem achieves_restored (hop : op.IsTransfer 0x85) :
    op.Achieves ρ .schip (Machine.Restored op.x) :=
  have hdecode : Instruction.decodeIn .schip op = some (.loadFlags op.x) :=
    Instruction.decodeIn_of_isTransfer hop rfl trivial rfl
  achieves_of_execute ρ hdecode (fun m _ => m.restored_restoredRegisters op.x) fun h => h

end Opcode

namespace Engine

variable {ρ : Type} [Generator ρ]

/-- The step of an engine that fetches an opcode does what the opcode achieves. -/
theorem after_step_of_achieves {e : Engine ρ} (hm : e.machine.WellFormed) {op : Opcode}
    (hop : e.machine.Fetches op) {relation : Machine → Machine → Prop}
    (hachieves : op.Achieves ρ e.variant relation) :
    relation e.machine (e.after .step).machine := by
  rw [after_machine]
  exact (hachieves.step e.machine e.random hm hop).2

/-- What is saved in the persistent flags is loaded from them again, whatever the host and
the program do in between, as long as nothing else is saved there. -/
theorem restored_of_saved {e : Engine ρ} (hm : e.machine.WellFormed)
    (hvariant : e.variant = .schip) {save load : Opcode} (hsave : e.machine.Fetches save)
    (hsaves : save.IsTransfer 0x75) {actions : List HostAction}
    (hother : ∀ op ∈ (e.after .step).fetched actions, ¬ op.IsTransfer 0x75)
    (hload : ((e.after .step).afterAll actions).machine.Fetches load)
    (hloads : load.IsTransfer 0x85) {register : Fin 16}
    (hregister : register.val ≤ min (min save.x.val load.x.val) 7) :
    (((e.after .step).afterAll actions).after .step).machine.v.get register =
      e.machine.v.get register := by
  have hflag : register.val < 8 := by omega
  have hstepped : (e.after .step).machine.WellFormed := wellFormed_afterAll hm [.step]
  have hlater := wellFormed_afterAll hstepped actions
  have hextended : ((e.after .step).afterAll actions).variant = .schip := by
    rw [afterAll_variant, after_variant, hvariant]
  -- no save comes between, so the flags are those of the first save
  have hsaved : Machine.Saved save.x e.machine (e.after .step).machine := by
    apply after_step_of_achieves hm hsave
    rw [hvariant]
    exact Opcode.achieves_saved ρ hsaves
  have hrestored := after_step_of_achieves hlater hload
    (by rw [hextended]; exact Opcode.achieves_restored ρ hloads)
  rw [hrestored register hflag (Fin.le_def.mpr (by omega)), flags_afterAll hstepped hother]
  exact hsaved register hflag (Fin.le_def.mpr (by omega))

end Engine

namespace Opcode

variable (ρ : Type) [Generator ρ] (variant : Variant) (op : Opcode)

/-- **What is put away comes back.**  `Fx55` stores the registers up to `x` from the index
register on, where addresses go round at the end of memory, and changes no other byte;
`Fx65` loads them from there and changes no other register; and `Fx33` stores the three
decimal digits of a register.  None of the three moves the index register.  So a machine
that has stored registers and still, or again, holds the same bytes and the same index
loads them again, whatever its registers hold by then.  The flags that `Fx75` saves are
loaded by `Fx85` again, behind any actions of the host among which no step saves others,
a restart with another program not excepted. -/
theorem transfers_come_back :
    (op.IsTransfer 0x55 → op.Achieves ρ variant (Machine.Stored op.x) ∧
      ∀ load : Opcode, load.IsTransfer 0x65 → load.x = op.x →
        ∀ (m later : Machine) (random random' : ρ),
          let after := (m.perform variant random op).1.machine
          later.memory = after.memory → later.i = after.i →
            ∀ register, register ≤ op.x →
              (later.perform variant random' load).1.machine.v.get register =
                m.v.get register) ∧
    (op.IsTransfer 0x65 → op.Achieves ρ variant (Machine.Loaded op.x)) ∧
    (op.IsTransfer 0x33 → op.Achieves ρ variant (Machine.Converted op.x)) ∧
    (op.IsTransfer 0x75 → ∀ e : Engine ρ, e.machine.WellFormed → e.variant = .schip →
      e.machine.Fetches op → ∀ actions : List HostAction,
        (∀ other ∈ (e.after .step).fetched actions, ¬ other.IsTransfer 0x75) →
        let later := (e.after .step).afterAll actions
        ∀ load, later.machine.Fetches load → load.IsTransfer 0x85 →
          ∀ register : Fin 16, register.val ≤ min (min op.x.val load.x.val) 7 →
            (later.after .step).machine.v.get register = e.machine.v.get register) := by
  refine ⟨?_, achieves_loaded ρ variant, achieves_converted ρ variant, ?_⟩
  · intro hop
    have hstores := achieves_stored ρ variant hop
    refine ⟨hstores, ?_⟩
    intro load hload hx m later random random' after hmemory hindex register hle
    have hstored : Machine.Stored op.x m after := (hstores.perform m random).machine
    have hloaded := ((achieves_loaded ρ variant hload).perform later random').machine
    rw [hx] at hloaded
    exact hstored.loaded hmemory hindex hloaded hle
  · intro hop e hm hvariant hsave actions hother later load hload hloads register hregister
    exact Engine.restored_of_saved hm hvariant hsave hop hother hload hloads hregister

/-- Three registers are stored in the last byte of memory and the first two, from an index
beyond, and loaded again when all registers are zero.  And a register that is saved in the
persistent flags is loaded by another program. -/
theorem transfers_come_back_across_end :
    let store : Opcode := ⟨0xF, 2, 5, 5⟩
    let load : Opcode := ⟨0xF, 2, 6, 5⟩
    let decimal : Opcode := ⟨0xF, 2, 3, 3⟩
    let m : Machine := { Machine.fresh with
      i := (0xFFFF : Nat), v := Slots.put (Slots.put (Vector.replicate 16 0) 0 7) 2 9 }
    let after := (m.perform .chip8 (Cycle.ofList [0]) store).1.machine
    let later : Machine := { after with v := Vector.replicate 16 0 }
    let save : Opcode := ⟨0xF, 3, 7, 5⟩
    let restore : Opcode := ⟨0xF, 5, 8, 5⟩
    let saving : Machine := { Machine.fresh with
      memory := Memory.zeroed.writeAll Memory.programStart [0xF3, 0x75]
      v := Slots.put (Vector.replicate 16 0) 3 7 }
    let e : Engine Cycle := ⟨.schip, false, false, saving, .ofList [0], #[]⟩
    let restoring := (e.after .step).afterAll [.restart [0xF5, 0x85], .tick]
    store.IsTransfer 0x55 ∧ load.IsTransfer 0x65 ∧ load.x = store.x ∧
      decimal.IsTransfer 0x33 ∧
      load.Achieves Cycle .chip8 (Machine.Loaded 2) ∧
      decimal.Achieves Cycle .chip8 (Machine.Converted 2) ∧
      after.memory.read 4095 = 7 ∧ after.memory.read 1 = 9 ∧
      (later.perform .chip8 (Cycle.ofList [0]) load).1.machine.v.get 2 = 9 ∧
      saving.WellFormed ∧ e.machine.Fetches save ∧ save.IsTransfer 0x75 ∧
      restoring.machine.Fetches restore ∧ restore.IsTransfer 0x85 ∧
      (restoring.after .step).machine.v.get 3 = 7 := by
  intro store load decimal m after later save restore saving e restoring
  have hstore : store.IsTransfer 0x55 := ⟨rfl, rfl⟩
  have hload : load.IsTransfer 0x65 := ⟨rfl, rfl⟩
  have hdecimal : decimal.IsTransfer 0x33 := ⟨rfl, rfl⟩
  have hsave : save.IsTransfer 0x75 := ⟨rfl, rfl⟩
  have hrestore : restore.IsTransfer 0x85 := ⟨rfl, rfl⟩
  have hsaving : saving.WellFormed := {
    sp_range := by decide
    pc_range := by decide
    i_range := by decide
    stack_range := Machine.WellFormed.fresh.stack_range
    delay_range := by decide
    sound_range := by decide }
  have hfirst : e.machine.Fetches save := {
    awake := rfl
    pc_lt := by decide
    word_eq := by decide +kernel }
  have hlast : restoring.machine.Fetches restore := {
    awake := rfl
    pc_lt := by decide
    word_eq := by decide +kernel }
  obtain ⟨hmemory, -⟩ := transfers_come_back Cycle .chip8 store
  obtain ⟨hachieves, hback⟩ := hmemory hstore
  have hstored := (hachieves.perform m (.ofList [0])).machine
  obtain ⟨-, -, -, hflags⟩ := transfers_come_back Cycle .schip save
  obtain ⟨-, hloaded, -⟩ := transfers_come_back Cycle .chip8 load
  obtain ⟨-, -, hconverted, -⟩ := transfers_come_back Cycle .chip8 decimal
  have hother : ∀ other ∈ (e.after .step).fetched [.restart [0xF5, 0x85], .tick],
      ¬ other.IsTransfer 0x75 := by
    simp [Engine.fetched, HostAction.fetched?]
  refine ⟨hstore, hload, rfl, hdecimal, hloaded hload, hconverted hdecimal, ?_, ?_, ?_, hsaving,
    hfirst, hsave, hlast, hrestore, ?_⟩
  · exact hstored.bytes 4095 0 (by decide) (by decide)
  · exact hstored.bytes 1 2 (by decide) (by decide)
  · exact hback load hload rfl m later (.ofList [0]) (.ofList [0]) rfl rfl 2 (by decide)
  · exact hflags hsave e hsaving rfl hfirst _ hother restore hlast hrestore 3 (by decide)

end Opcode

end SuperChip
