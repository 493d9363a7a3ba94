import SuperChip.Proofs.BreakpointRun

/-!
# What `step` shows

The command `step` prints a line for each step of a machine that does not wait for
a key.  In front of the last byte of memory these lines are a trace: each is the
instruction that the step fetches and executes, and none is missing.  A machine
that has run past that place executes nothing any more, but still gets a line for
each step, with an opcode that nobody fetches.

## Strategy

`steps_cases` follows the loop of the command and says what it prints of the moments
that it goes through.  What it prints of a moment is compared with what the step of
that moment executes (`Moment.executes_of_executed?`), and the two differ only where
the machine overruns.  Such a machine stays as it is, so the steps behind the first
that overruns all show the same line (`filterMap_traced?_of_parked`), and an
induction over the steps in front of it gives the whole trace.
-/

namespace SuperChip

variable {ρ : Type}

/-! ## What a step executes -/

namespace Moment

/-- The instruction that the step of a moment executes, with its address. -/
def executed? (moment : Moment ρ) : Option (Int × Opcode) :=
  match moment.before.machine.next with
  | .opcode op => some (moment.before.machine.pc, op)
  | _ => none

/-- The instruction that the command shows of a moment, with its address. -/
def traced? (moment : Moment ρ) : Option (Int × Opcode) :=
  if moment.before.machine.waiting then none
  else some (moment.before.machine.pc,
    moment.before.machine.memory.opcode moment.before.machine.pc)

/-- Whether the machine stays at the end of memory. -/
def overruns (moment : Moment ρ) : Bool :=
  !moment.before.machine.waiting && decide (Machine.fetchLimit ≤ moment.before.machine.pc)

end Moment

variable [Generator ρ]

/-- The step of a moment fetches the big-endian word at an address and executes it. -/
structure Moment.Executes (moment : Moment ρ) (address : Int) (op : Opcode) : Prop where
  pc_eq : moment.before.machine.pc = address
  inside : 0 ≤ address ∧ address ≤ 4094
  word_eq : op.toNat = (moment.before.machine.memory.read address).toNat * 256 +
    (moment.before.machine.memory.read (address + 1)).toNat
  after_eq : moment.after.machine =
    (moment.before.showKeypad.machine.fetched.perform moment.before.engine.variant
      moment.before.engine.random op).1.machine

namespace Console

variable {c d : Console ρ}

omit [Generator ρ] in
/-- The keys have no influence on what comes next. -/
theorem next_showKeypad (c : Console ρ) : c.showKeypad.machine.next = c.machine.next := rfl

theorem machine_of_step (hloaded : c.loaded = true) :
    (Move.step.after c).machine =
      (c.showKeypad.machine.step c.engine.variant c.engine.random).1.machine := by
  rw [Move.after_step_of_loaded c hloaded]
  exact Engine.after_machine c.showKeypad.engine .step

/-- A machine past the end of memory gets the keys and stays as it is. -/
theorem machine_of_overrun (hloaded : c.loaded = true) (hnext : c.machine.next = .overrun) :
    (Move.step.after c).machine = c.showKeypad.machine := by
  rw [← next_showKeypad] at hnext
  rw [machine_of_step hloaded, Machine.step_of_overrun _ _ hnext]

end Console

/-- What comes next in a machine whose program counter is not negative. -/
theorem Machine.WellFormed.next_eq {m : Machine} (hm : m.WellFormed) :
    m.next =
      if m.waiting then .await
      else if fetchLimit ≤ m.pc then .overrun
      else .opcode (m.memory.opcode m.pc) := by
  by_cases hwaiting : m.waiting = true
  · rw [if_pos hwaiting, next_of_waiting hwaiting]
  · rw [if_neg hwaiting]
    rw [Bool.not_eq_true] at hwaiting
    by_cases hend : fetchLimit ≤ m.pc
    · rw [if_pos hend, next_at_end hwaiting hend]
    · have hhigh : m.pc < 4095 := by simpa only [fetchLimit, Int.not_le] using hend
      rw [if_neg hend, next_in_memory hwaiting hm.pc_range.1 hhigh]

namespace Moment

variable {stepsPerFrame : Nat} {c : Console ρ}

theorem executes_of_executed? (hc : c.Running stepsPerFrame) {address : Int} {op : Opcode}
    (h : executed? ⟨c, .step⟩ = some (address, op)) : Executes ⟨c, .step⟩ address op := by
  have hwellFormed : c.machine.WellFormed := hc.sound.wellFormed
  cases hnext : c.machine.next with
  | await => simp [executed?, hnext] at h
  | overrun => simp [executed?, hnext] at h
  | unfetched fault => simp [executed?, hnext] at h
  | opcode fetched =>
      simp only [executed?, hnext, Option.some.injEq, Prod.mk.injEq] at h
      obtain ⟨rfl, rfl⟩ := h
      have hlow := hwellFormed.pc_range.1
      have hhigh := Machine.pc_lt_of_next hnext
      -- the opcode that was fetched is the one that stands in memory
      have hop : fetched = c.machine.memory.opcode c.machine.pc := by
        have hsame := hwellFormed.next_eq
        rw [hnext] at hsame
        split at hsame
        · cases hsame
        · split at hsame
          · cases hsame
          · exact Machine.Next.opcode.inj hsame
      refine ⟨rfl, ⟨hlow, by omega⟩, ?_, ?_⟩
      · rw [hop, Memory.opcode, Opcode.toNat_ofBytes]
      · rw [← Console.next_showKeypad] at hnext
        rw [Moment.after, Console.machine_of_step hc.loaded,
          Machine.step_of_opcode _ _ hnext, Effect.machine_outcome]

/-- A moment that executes no instruction gets the keys, and with them a machine that
waits may find the key that it waits for. -/
theorem machine_of_executed?_eq_none (hc : c.Running stepsPerFrame)
    (h : executed? ⟨c, .step⟩ = none) :
    (Moment.mk c .step).after.machine = c.showKeypad.machine ∨
      (Moment.mk c .step).after.machine = c.showKeypad.machine.resolveWait := by
  rw [Moment.after, Console.machine_of_step hc.loaded]
  cases hnext : c.showKeypad.machine.next with
  | await => exact .inr (by rw [Machine.step_of_await _ _ hnext])
  | overrun => exact .inl (by rw [Machine.step_of_overrun _ _ hnext])
  | unfetched fault => exact .inl (by rw [Machine.step_of_unfetched _ _ hnext])
  | opcode op =>
      rw [Console.next_showKeypad] at hnext
      simp [executed?, hnext] at h

end Moment

/-! ## Moments of a machine that has run past the end -/

namespace Console

variable {stepsPerFrame : Nat} {c d : Console ρ}

theorem moments_step (hstep : step c = .ok () d) (count : Nat) :
    c.moments (List.replicate (count + 1) .step) =
      ⟨c, .step⟩ :: d.moments (List.replicate count .step) := by
  simp only [List.replicate_succ, moments, Move.perform, hstep]

theorem performAll_step (hstep : step c = .ok () d) (count : Nat) :
    Move.performAll (List.replicate (count + 1) .step) c =
      Move.performAll (List.replicate count .step) d := by
  simp only [List.replicate_succ, Move.performAll, Move.perform, bind, EStateM.bind, hstep]

theorem machine_of_step_eq_ok (hstep : step c = .ok () d) :
    d.machine = (Move.step.after c).machine := by
  simp only [Move.after, Attempt.after, Move.perform, hstep]

/-- The moments of some steps of a running console are steps of running consoles. -/
theorem exists_of_mem_moments (hc : c.Running stepsPerFrame) {count : Nat} {moment : Moment ρ}
    (h : moment ∈ c.moments (List.replicate count .step)) :
    ∃ before : Console ρ, moment = ⟨before, .step⟩ ∧ before.Running stepsPerFrame := by
  induction count generalizing c with
  | zero => cases h
  | succ count ih =>
      obtain ⟨d, hstep, hd⟩ := hc.step
      rw [moments_step hstep] at h
      rcases List.mem_cons.mp h with rfl | hrest
      · exact ⟨c, rfl, hc⟩
      · exact ih hd hrest

/-- A machine past the end of memory. -/
def Parked (c : Console ρ) : Prop :=
  c.machine.waiting = false ∧ Machine.fetchLimit ≤ c.machine.pc

omit [Generator ρ] in
theorem Parked.next (h : c.Parked) : c.machine.next = .overrun :=
  Machine.next_at_end h.1 h.2

theorem Parked.machine_of_step (h : c.Parked) (hloaded : c.loaded = true)
    (hstep : step c = .ok () d) : d.machine = c.showKeypad.machine := by
  rw [machine_of_step_eq_ok hstep, machine_of_overrun hloaded h.next]

/-- The moments of a machine past the end of memory all show the same. -/
theorem Parked.moments (h : c.Parked) (hc : c.Running stepsPerFrame) {count : Nat}
    {last : Console ρ} (hlast : Move.performAll (List.replicate count .step) c = .ok () last) :
    (c.moments (List.replicate count .step)).filterMap Moment.traced? =
        List.replicate count (last.machine.pc, last.machine.memory.opcode last.machine.pc) ∧
      (c.moments (List.replicate count .step)).filterMap Moment.executed? = [] ∧
      (c.moments (List.replicate count .step)).countP Moment.overruns = count ∧
      last.machine.pc = c.machine.pc ∧ last.machine.memory = c.machine.memory := by
  induction count generalizing c with
  | zero =>
      cases hlast
      exact ⟨rfl, rfl, rfl, rfl, rfl⟩
  | succ count ih =>
      obtain ⟨d, hstep, hd⟩ := hc.step
      have hmachine := h.machine_of_step hc.loaded hstep
      have hparked : d.Parked := by
        rw [Parked, hmachine]
        exact h
      rw [performAll_step hstep] at hlast
      obtain ⟨htraced, hexecuted, hoverruns, hpc, hmemory⟩ := ih hparked hd hlast
      rw [hmachine] at hpc hmemory
      have hshown : Moment.traced? (⟨c, .step⟩ : Moment ρ) =
          some (last.machine.pc, last.machine.memory.opcode last.machine.pc) := by
        rw [hpc, hmemory]
        simp only [Moment.traced?, h.1, Bool.false_eq_true, if_false]
        rfl
      have hnone : Moment.executed? (⟨c, .step⟩ : Moment ρ) = none := by
        simp only [Moment.executed?, h.next]
      have hover : Moment.overruns (⟨c, .step⟩ : Moment ρ) = true := by
        simp [Moment.overruns, h.1, h.2]
      rw [moments_step hstep]
      refine ⟨?_, ?_, ?_, hpc, hmemory⟩
      · rw [List.filterMap_cons_some hshown, htraced, List.replicate_succ]
      · rw [List.filterMap_cons_none hnone, hexecuted]
      · rw [List.countP_cons_of_pos hover, hoverruns]

/-- In front of the end of memory a step executes what is shown of it. -/
theorem executed?_eq_traced? (hc : c.Running stepsPerFrame) (h : ¬ c.Parked) :
    Moment.executed? (⟨c, .step⟩ : Moment ρ) = Moment.traced? ⟨c, .step⟩ := by
  have hwellFormed : c.machine.WellFormed := hc.sound.wellFormed
  simp only [Moment.executed?, Moment.traced?, hwellFormed.next_eq]
  by_cases hwaiting : c.machine.waiting = true
  · simp only [if_pos hwaiting]
  · rw [Bool.not_eq_true] at hwaiting
    have hbefore : ¬ Machine.fetchLimit ≤ c.machine.pc := fun hend => h ⟨hwaiting, hend⟩
    simp only [hwaiting, Bool.false_eq_true, if_false, if_neg hbefore]

/-- What is shown of some steps is what they execute, and then one line for each step of
a machine past the end of memory. -/
theorem filterMap_traced?_eq (hc : c.Running stepsPerFrame) {count : Nat} {last : Console ρ}
    (hlast : Move.performAll (List.replicate count .step) c = .ok () last) :
    let moments := c.moments (List.replicate count .step)
    moments.filterMap Moment.traced? = moments.filterMap Moment.executed? ++
      List.replicate (moments.countP Moment.overruns)
        (last.machine.pc, last.machine.memory.opcode last.machine.pc) := by
  intro moments
  induction count generalizing c with
  | zero => rfl
  | succ count ih =>
      -- from the end of memory on every step overruns; before it the two traces agree
      by_cases hparked : c.Parked
      · obtain ⟨htraced, hexecuted, hoverruns, -, -⟩ := hparked.moments hc hlast
        rw [htraced, hexecuted, hoverruns, List.nil_append]
      · obtain ⟨d, hstep, hd⟩ := hc.step
        have hmoments : moments = ⟨c, .step⟩ :: d.moments (List.replicate count .step) :=
          moments_step hstep count
        rw [performAll_step hstep] at hlast
        have hrest := ih hd hlast
        have hsame := executed?_eq_traced? hc hparked
        have hover : ¬ Moment.overruns (⟨c, .step⟩ : Moment ρ) = true := by
          simpa [Moment.overruns, Parked] using hparked
        rw [hmoments, List.countP_cons_of_neg hover]
        cases hshown : Moment.traced? (⟨c, .step⟩ : Moment ρ) with
        | none =>
            rw [hshown] at hsame
            rw [List.filterMap_cons_none hshown, List.filterMap_cons_none hsame, hrest]
        | some entry =>
            rw [hshown] at hsame
            rw [List.filterMap_cons_some hshown, List.filterMap_cons_some hsame, hrest,
              List.cons_append]

end Console

namespace Monitor

/-! ## The loop of the command -/

/-- The line of an instruction at an address. -/
def traceLine (entry : Int × Opcode) : String := "  " ++ instructionLine entry.1 entry.2

/-- What is said of a machine that goes on waiting for a key. -/
def waitLine (m : Machine) : String :=
  s!"  waiting for key -> V{Hexadecimal.upper 1 m.awaitedRegister.val}"

variable {m : Monitor ρ} {d : Console ρ}

/-- A step is made and shown, unless it belongs to a wait that goes on. -/
theorem steps_of_step (hstep : Console.step m.console = .ok () d)
    (hgoes : m.console.machine.waiting = true → d.machine.waiting = false) (count : Nat) :
    steps (count + 1) m = steps count { m with
      console := d
      printed := m.printed ++
        ((Moment.traced? ⟨m.console, .step⟩).toList.map traceLine).toArray } := by
  have hconsole : onConsole Console.step m = .ok () { m with console := d } :=
    Attempt.onPart_ok hstep
  -- a wait that ends prints no line, and every other step prints one
  by_cases hwaiting : m.console.machine.waiting = true
  · have hbefore : m.machine.waiting = true := hwaiting
    have hafter : Monitor.machine { m with console := d } = d.machine := rfl
    simp [steps, Moment.traced?, bind, EStateM.bind, Attempt.get_eq, hbefore, hconsole, hafter,
      hgoes hwaiting, hwaiting]
  · rw [Bool.not_eq_true] at hwaiting
    have hbefore : m.machine.waiting = false := hwaiting
    have hprint : ∀ text, (print text : Attempt (Monitor ρ) Unit) { m with console := d } =
        .ok () { m with console := d, printed := m.printed.push text } := fun text => rfl
    simp only [steps, bind, EStateM.bind, Attempt.get_eq, hbefore, Bool.false_eq_true, if_false,
      hconsole, hprint, Moment.traced?, hwaiting, Option.toList_some, List.map_cons, List.map_nil]
    rfl

theorem steps_of_stalled (hwaiting : m.console.machine.waiting = true)
    (hstep : Console.step m.console = .ok () d) (hstalled : d.machine.waiting = true)
    (count : Nat) : steps (count + 1) m =
      .ok () { m with console := d, printed := m.printed.push (waitLine d.machine) } := by
  have hconsole : onConsole Console.step m = .ok () { m with console := d } :=
    Attempt.onPart_ok hstep
  have hbefore : m.machine.waiting = true := hwaiting
  have hafter : Monitor.machine { m with console := d } = d.machine := rfl
  simp only [steps, bind, EStateM.bind, Attempt.get_eq, hbefore, if_true, hconsole, hafter,
    hstalled]
  rfl

/-- The command makes its steps, up to a wait that goes on if there is one, and prints
what it shows of them. -/
theorem steps_cases {stepsPerFrame : Nat} (count : Nat) (hc : m.console.Running stepsPerFrame) :
    ∃ (made : Nat) (last : Console ρ) (note : List String),
      Move.performAll (List.replicate made .step) m.console = .ok () last ∧
      steps count m = .ok () { m with
        console := last
        printed := m.printed ++ ((((m.console.moments (List.replicate made .step)).filterMap
          Moment.traced?).map traceLine) ++ note).toArray } ∧
      (made = count ∧ note = [] ∨
        made ≤ count ∧ last.machine.waiting = true ∧ note = [waitLine last.machine]) := by
  induction count generalizing m with
  | zero =>
      refine ⟨0, m.console, [], rfl, ?_, .inl ⟨rfl, rfl⟩⟩
      simp only [List.replicate_zero, Console.moments, List.filterMap_nil, List.map_nil,
        List.append_nil, Array.append_empty]
      rfl
  | succ count ih =>
      obtain ⟨d, hstep, hd⟩ := hc.step
      by_cases hstalled : m.console.machine.waiting = true ∧ d.machine.waiting = true
      -- the wait goes on behind this step, and the command gives up
      · obtain ⟨hwaiting, hstill⟩ := hstalled
        refine ⟨1, d, [waitLine d.machine], ?_, ?_, .inr ⟨by omega, hstill, rfl⟩⟩
        · rw [Console.performAll_step hstep]
          rfl
        · have hshown : Moment.traced? (⟨m.console, .step⟩ : Moment ρ) = none := by
            simp only [Moment.traced?, if_pos hwaiting]
          rw [steps_of_stalled hwaiting hstep hstill, Console.moments_step hstep,
            List.filterMap_cons_none hshown]
          simp [Console.moments]
      · have hgoes : m.console.machine.waiting = true → d.machine.waiting = false := by
          intro hwaiting
          apply Bool.eq_false_iff.mpr
          exact fun hstill => hstalled ⟨hwaiting, hstill⟩
        rw [steps_of_step hstep hgoes]
        obtain ⟨made, last, note, hlast, hsteps, hnote⟩ := @ih { m with
          console := d
          printed := m.printed ++
            ((Moment.traced? ⟨m.console, .step⟩).toList.map traceLine).toArray } hd
        refine ⟨made + 1, last, note, ?_, ?_, ?_⟩
        · rw [Console.performAll_step hstep, hlast]
        · rw [hsteps, Console.moments_step hstep]
          cases hshown : Moment.traced? (⟨m.console, .step⟩ : Moment ρ) with
          | none => simp [List.filterMap_cons_none hshown]
          | some entry => simp [List.filterMap_cons_some hshown]
        · rcases hnote with ⟨hall, hnone⟩ | ⟨hle, hwaits, hsaid⟩
          · exact .inl ⟨by omega, hnone⟩
          · exact .inr ⟨by omega, hwaits, hsaid⟩

/-! ## The command -/

/-- A line that asks for steps of a console with a program makes them. -/
theorem execute_of_steps (hloaded : m.console.loaded = true) (files : Files)
    {line argument : String} (hline : MonitorLine.read line = .command .step argument)
    {count : Int} (hcount : numberOr 1 argument m = .ok count m) :
    execute files line m = goOn (steps count.toNat) m := by
  have hready : ready m = .ok true m := by
    simp only [ready, bind, EStateM.bind, Attempt.get_eq, if_pos hloaded]
    rfl
  simp only [execute, hline, perform, goOn, step, bind, EStateM.bind, hready, if_true, hcount]

/-- **The trace of `step`.**  The command prints the instructions that its steps
execute, each with its address, in order and once each; a step that executes none
finds the machine waiting for a key or past the end of memory.  Behind the trace
stands one more line for each step past the end of memory, all alike, and at last a
note if the machine goes on waiting for a key, which ends the command early. -/
theorem step_shows_trace {m : Monitor ρ} (hm : m.Reachable) (hloaded : m.console.loaded = true)
    (files : Files) {line argument : String}
    (hline : MonitorLine.read line = .command .step argument) {count : Int}
    (hcount : numberOr 1 argument m = .ok count m) :
    ∃ (made : Nat) (last : Console ρ) (note : List String),
      let moments := m.console.moments (List.replicate made .step)
      let executed := moments.filterMap Moment.executed?
      let overruns := moments.countP Moment.overruns
      Move.performAll (List.replicate made .step) m.console = .ok () last ∧
      execute files line m = .ok false { m with
        console := last
        printed := m.printed ++ (executed.map traceLine ++ List.replicate overruns
          (traceLine (last.machine.pc, last.machine.memory.opcode last.machine.pc)) ++
          note).toArray } ∧
      (made = count.toNat ∧ note = [] ∨
        made ≤ count.toNat ∧ last.machine.waiting = true ∧ note = [waitLine last.machine]) ∧
      ∀ moment ∈ moments,
        (∀ address op, moment.executed? = some (address, op) → moment.Executes address op) ∧
        (moment.executed? = none →
          moment.after.machine = moment.before.showKeypad.machine ∨
            moment.after.machine = moment.before.showKeypad.machine.resolveWait) := by
  have hrunning : m.console.Running m.console.stepsPerFrame := ⟨hm.sound, hloaded, rfl⟩
  obtain ⟨made, last, note, hlast, hsteps, hnote⟩ := steps_cases count.toNat hrunning
  refine ⟨made, last, note, hlast, ?_, hnote, ?_⟩
  · rw [execute_of_steps hloaded files hline hcount]
    simp only [goOn, bind, EStateM.bind, hsteps]
    rw [Console.filterMap_traced?_eq hrunning hlast, List.map_append, List.map_replicate]
    rfl
  · intro moment hmoment
    obtain ⟨before, rfl, hbefore⟩ := Console.exists_of_mem_moments hrunning hmoment
    constructor
    · intro address op hexecuted
      exact Moment.executes_of_executed? hbefore hexecuted
    · intro hnone
      exact Moment.machine_of_executed?_eq_none hbefore hnone

/-- A jump to the last byte of memory and a step behind it. -/
theorem step_shows_trace_past_end :
    ∃ c : Console Cycle, Console.assemble "schip" 10 false (.ofList [0]) = .ok c ∧
      let m := observing ((Move.load [0x1F, 0xFF]).after c)
      m.Reachable ∧ m.console.loaded = true ∧
        MonitorLine.read "step 2" = .command .step "2" ∧ numberOr 1 "2" m = .ok 2 m ∧
        ∃ (made : Nat) (last : Console Cycle) (note : List String),
          let moments := m.console.moments (List.replicate made .step)
          Move.performAll (List.replicate made .step) m.console = .ok () last ∧
          execute Folder.empty.files "step 2" m = .ok false { m with
            console := last
            printed := m.printed ++ ((moments.filterMap Moment.executed?).map traceLine ++
              List.replicate (moments.countP Moment.overruns)
                (traceLine (last.machine.pc, last.machine.memory.opcode last.machine.pc)) ++
              note).toArray } := by
  have hassembled : Console.assemble "schip" 10 false (Cycle.ofList [0]) = .ok _ := rfl
  refine ⟨_, hassembled, ?_⟩
  intro m
  have hreachable : m.Reachable :=
    .observing ((Console.sound_of_assemble hassembled).after (.load [0x1F, 0xFF])) none
  have hloaded : m.console.loaded = true := by decide +kernel
  have hline : MonitorLine.read "step 2" = .command .step "2" := by decide +kernel
  have hcount : numberOr 1 "2" m = .ok 2 m := by
    have hnumber : trimmed "2" ≠ "" := by decide +kernel
    exact numberOr_of_readNumber hnumber rfl m
  obtain ⟨made, last, note, hlast, hexecute, -⟩ :=
    step_shows_trace hreachable hloaded Folder.empty.files hline hcount
  exact ⟨hreachable, hloaded, hline, hcount, made, last, note, hlast, hexecute⟩

/-- Not every line of the command stands for an instruction: here two steps execute one
instruction and show two, the second at an address where no opcode fits. -/
theorem step_shows_more_than_trace :
    ∃ c : Console Cycle, Console.assemble "schip" 10 false (.ofList [0]) = .ok c ∧
      let m := observing ((Move.load [0x1F, 0xFF]).after c)
      m.Reachable ∧ m.console.loaded = true ∧
        (m.console.moments [.step, .step]).filterMap Moment.executed? =
          [(0x200, ⟨1, 15, 15, 15⟩)] ∧
        (Attempt.after (execute Folder.empty.files "step 2") m).printed =
          #["  0x200: 1FFF  jp   0xFFF", "  0xfff: 00F0  ERROR 0x00F0"] := by
  have hassembled : Console.assemble "schip" 10 false (Cycle.ofList [0]) = .ok _ := rfl
  refine ⟨_, hassembled, ?_⟩
  intro m
  have hreachable : m.Reachable :=
    .observing ((Console.sound_of_assemble hassembled).after (.load [0x1F, 0xFF])) none
  have hrun : m.console.loaded = true ∧
      (m.console.moments [.step, .step]).filterMap Moment.executed? =
        [(0x200, ⟨1, 15, 15, 15⟩)] ∧
      (Attempt.after (execute Folder.empty.files "step 2") m).printed =
        #["  0x200: 1FFF  jp   0xFFF", "  0xfff: 00F0  ERROR 0x00F0"] := by
    decide +kernel
  exact ⟨hreachable, hrun⟩

end Monitor

end SuperChip
