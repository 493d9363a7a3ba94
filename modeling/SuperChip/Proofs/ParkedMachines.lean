import SuperChip.Proofs.Anomalies
import SuperChip.Proofs.Resting

/-!
# Parked machines

A program ends its work by waiting for a key that nobody presses, or by running past the
end of memory.  A host that goes on with such a machine finds it as it was, for as long as
it likes and whatever it does with the keypad meanwhile.  A wait ends with the first step
that finds a key pressed, and that step does not execute an instruction yet.

## Strategy

What a console at rest comes to is said in `Proofs/Resting.lean`.  It takes a machine that
is well-formed and gives no signal of the sound timer, for such a signal would be counted
at the end of the next frame.  `Reachable` lists what a host can do to a console, and each
of these keeps the machine silent (`Reachable.silent`), so that a loaded one is ready for
everything that is proved there.
-/

namespace SuperChip

/-- A machine that is well-formed and gives no signal of the sound timer. -/
structure Machine.Silent (m : Machine) : Prop where
  wellFormed : m.WellFormed
  beep : m.beep = false

variable {ρ : Type} [Generator ρ]

namespace Console

variable {c d e : Console ρ}

/-! ## Consoles that a host can come to -/

theorem silent_after_action {e : Engine ρ} (h : e.machine.Silent) {action : HostAction}
    (haction : action ≠ .tick) : (e.after action).machine.Silent := by
  refine ⟨Engine.wellFormed_afterAll h.wellFormed [action], ?_⟩
  rw [Engine.after_machine]
  cases action with
  | step => exact (Machine.stepped e.variant e.random e.machine).beep.trans h.beep
  | tick => exact absurd rfl haction
  | restart program =>
      simp only [Engine.outcome, HostAction.outcome, Machine.restart]
      split
      · exact h.beep
      · rfl
  | loadBlock address block =>
      simp only [Engine.outcome, HostAction.outcome, Machine.loadBlock]
      cases e.machine.memory.load address block with
      | error fault => exact h.beep
      | ok memory => exact h.beep
  | takeBeep => rfl
  | writeByte address value => exact h.beep
  | writeKey key value => exact h.beep
  | takeRedraw => exact h.beep

/-- A console that has been assembled, and with which a host has done anything since, in
any order.  The timers tick at the ends of frames and nowhere else. -/
inductive Reachable : Console ρ → Prop
  | assembled {c : Console ρ} {name : String} {cycles : Int} {strict : Bool} {random : ρ}
      (h : assemble name cycles strict random = .ok c) : Reachable c
  | move {c : Console ρ} (hc : Reachable c) (move : Move) : Reachable (move.after c)
  | action {c : Console ρ} (hc : Reachable c) {action : HostAction} (haction : action ≠ .tick) :
      Reachable { c with engine := c.engine.after action }
  | reporting {c : Console ρ} (hc : Reachable c) (strict listening : Bool) :
      Reachable { c with engine := { c.engine with strict := strict, listening := listening } }
  | listeners {c : Console ρ} (hc : Reachable c) (frameListener : FrameListener)
      (beepListener : BeepListener) (recorders : Array Recorder) :
      Reachable { c with
        frameListener := frameListener, beepListener := beepListener, recorders := recorders }

theorem silent_after_move (h : c.machine.Silent) (move : Move) :
    (move.after c).machine.Silent := by
  -- the end of a frame takes the beep, and no other move gives one
  cases move with
  | load program =>
      by_cases hfits : program.length ≤ programLimit
      · rw [Move.after_load_of_fits c hfits]
        exact ⟨.restarted _ _, rfl⟩
      · rw [Move.after_load_of_too_large c (by omega)]
        exact h
  | holdKey key pressed =>
      obtain ⟨keypad, hkeypad⟩ := Move.after_holdKey c key pressed
      rw [hkeypad]
      exact h
  | releaseKeys => exact h
  | step =>
      cases hloaded : c.loaded with
      | false =>
          rw [Move.after_step_of_not_loaded c hloaded]
          exact h
      | true =>
          have hshown : c.showKeypad.machine.Silent := ⟨{ h.wellFormed with }, h.beep⟩
          rw [Move.after_step_of_loaded c hloaded]
          exact silent_after_action hshown (by simp)
  | closeFrame =>
      rw [Move.after_closeFrame, frameEnded_eq]
      exact ⟨{ h.wellFormed.tick with }, rfl⟩

theorem Reachable.silent (hc : c.Reachable) : c.machine.Silent := by
  induction hc with
  | assembled h =>
      unfold assemble at h
      split at h
      · cases hvariant : Variant.ofName _ with
        | ok variant =>
            rw [hvariant] at h
            cases h
            exact ⟨.fresh, rfl⟩
        | error fault =>
            rw [hvariant] at h
            cases h
      · cases h
  | move _ move ih => exact silent_after_move ih move
  | action _ haction ih => exact silent_after_action ih haction
  | reporting => assumption
  | listeners => assumption

theorem Reachable.ready (hc : c.Reachable) (hloaded : c.loaded = true) : c.Ready :=
  ⟨hloaded, hc.silent.wellFormed, hc.silent.beep⟩

theorem Reachable.path (hc : c.Reachable) {path : List (Moment ρ)} (h : Path c path d) :
    d.Reachable := by
  induction h with
  | nil => exact hc
  | cons _ ih => exact ih (hc.move _)

/-! ## Waiting for a key and running past the end -/

/-- The opcode `Fx0A` leaves the machine waiting, with the program counter behind it. -/
theorem wait_of_fetches (hc : c.Ready) {op : Opcode} (hop : c.machine.Fetches op)
    (hword : op.toNat = 0xF00A + op.x.val * 256) :
    let after := (Move.step.after c).machine
    after.waiting = true ∧ after.awaitedRegister = op.x ∧ after.pc = c.machine.pc + 2 := by
  intro after
  have hdecode : Instruction.decode op = some (.awaitKey op.x) := by
    refine Instruction.decode_eq_some_iff.mpr ⟨?_, trivial⟩
    simp only [hword, Instruction.word]
    omega
  have hdecodeIn : Instruction.decodeIn c.engine.variant op = some (.awaitKey op.x) := by
    rw [Instruction.decodeIn, hdecode]
    cases c.engine.variant <;> rfl
  have hnext : c.showKeypad.machine.next = .opcode op := hc.wellFormed.fetches_iff.mp hop
  obtain ⟨number, hstep⟩ :=
    Machine.exists_step_eq_execute c.engine.variant c.engine.random hnext hdecodeIn
  -- the step is the wait itself, behind the instruction
  have hafter : after = { c.showKeypad.machine.fetched with
      waiting := true, awaitedRegister := op.x } := (machine_of_step hc.loaded).trans hstep
  rw [hafter]
  exact ⟨rfl, rfl, rfl⟩

/-- **A machine that is parked stays parked.**  The opcode `Fx0A` leaves a machine waiting
with the program counter behind it.  As long as no step finds a key pressed, steps change
nothing in the engine but the keys that are shown to it; the first step that finds some
pressed puts the smallest into the register that waits, ends the wait, and does nothing
else, so that no instruction is executed yet.  The steps of a machine past the end of memory
change nothing in the engine but the keys, whatever keys are pressed, and a strict one goes
on reporting.  And where a machine makes no progress, frames run down its timers, take its
signals away, and do nothing else but count themselves, their steps and the beep of the
sound timer. -/
theorem parked_machines_stay_parked (hc : c.Reachable) (hloaded : c.loaded = true) :
    (∀ op, c.machine.Fetches op → op.toNat = 0xF00A + op.x.val * 256 →
      let after := (Move.step.after c).machine
      after.waiting = true ∧ after.awaitedRegister = op.x ∧ after.pc = c.machine.pc + 2) ∧
    (c.machine.waiting = true → ∀ path d, Path c path d →
      (∀ moment ∈ path, moment.move.WithinFrame) →
      (∀ moment ∈ path, moment.move = .step → moment.before.keypad = releasedKeypad) →
        (∀ moment ∈ path, moment.move = .step → step moment.before = .ok () moment.after ∧
          moment.after.machine.keys = keyBytes moment.before.keypad) ∧
        d = { c with
          engine := c.engine.onMachine fun m => { m with keys := d.machine.keys }
          keypad := d.keypad, steps := c.steps + (stepsAmong path).length } ∧
        ((∃ key, d.keypad.get key = true) → ∃ key, FirstHeld d.keypad key ∧
          Moment.executed? ⟨d, .step⟩ = none ∧
          step d = .ok () { d with
            engine := c.engine.onMachine fun m => { m with
              keys := keyBytes d.keypad
              v := Slots.put m.v m.awaitedRegister (UInt8.ofNat key.val)
              waiting := false }
            steps := d.steps + 1 })) ∧
    (c.Parked → ∀ path d, Path c path d → (∀ moment ∈ path, moment.move.WithinFrame) →
      (∀ moment ∈ path, moment.move = .step → step moment.before = .ok () moment.after ∧
          moment.after.machine.keys = keyBytes moment.before.keypad) ∧
      d = { c with
        engine := { c.engine with
          machine := { c.machine with keys := d.machine.keys }, reports := d.engine.reports }
        keypad := d.keypad, steps := c.steps + (stepsAmong path).length } ∧
      d.engine.reports.toList =
        c.engine.reports.toList ++ c.overrunReports (stepsAmong path).length) ∧
    (c.AtRest → ∀ frames : Nat, 1 ≤ frames → ∃ d,
      run frames c = .ok (if c.machine.redraw then 1 else 0) d ∧
      d = { c with
        engine := { c.engine with
          machine := { c.machine with
            keys := keyBytes c.keypad
            delay := c.machine.delay - min (frames : Int) c.machine.delay
            sound := c.machine.sound - min (frames : Int) c.machine.sound
            redraw := false }
          reports := d.engine.reports }
        frames := c.frames + frames
        steps := c.steps + frames * c.stepsPerFrame
        beeps := if 1 ≤ c.machine.sound ∧ c.machine.sound ≤ frames then c.beeps + 1 else c.beeps
        recorders := if c.machine.redraw then c.recordersHearing else c.recorders
        signals := d.signals } ∧
      d.engine.reports.toList =
        c.engine.reports.toList ++ c.overrunReports (frames * c.stepsPerFrame) ∧
      ∃ heard, d.signals.toList = c.signals.toList ++ heard ∧
        heard.filter Signal.isBeep = c.beepOwed frames ∧
        heard.filter (fun signal => !signal.isBeep) = c.frameOwed frames) := by
  have hready := hc.ready hloaded
  refine ⟨?_, ?_, ?_, ?_⟩
  · intro op hop hword
    exact wait_of_fetches hready hop hword
  · intro hwaiting path d hpath hmoves hkeys
    obtain ⟨hrests, hsteps⟩ :=
      rests_of_path_withinFrame hpath hready (.inl hwaiting) hmoves fun _ => hkeys
    -- a machine that waits reports no overrun
    have hreports : d.engine.reports = c.engine.reports := by
      apply Array.toList_inj.mp
      rw [hrests.reports]
      simp [overrunReports, hwaiting]
    have hd : d = { c with
        engine := c.engine.onMachine fun m => { m with keys := d.machine.keys }
        keypad := d.keypad, steps := c.steps + (stepsAmong path).length } := by
      have heq := hrests.eq_of_no_end hready
      rwa [hreports] at heq
    refine ⟨hsteps, hd, ?_⟩
    intro hheld
    have hengine : d.engine = c.engine.onMachine fun m => { m with keys := d.machine.keys } :=
      congrArg Console.engine hd
    have hstill : d.machine.waiting = true := by
      rw [hrests.machine]
      exact hwaiting
    have hloaded' : d.loaded = true := by
      rw [hd]
      exact hloaded
    obtain ⟨key, hfirst, hstep⟩ := step_of_held hloaded' hstill hheld
    refine ⟨key, hfirst, ?_, ?_⟩
    · simp only [Moment.executed?, Machine.next_of_waiting hstill]
    · rw [hstep, hengine]
      rfl
  · intro hparked path d hpath hmoves
    obtain ⟨hrests, hsteps⟩ := rests_of_path_withinFrame hpath hready (.inr hparked) hmoves
      fun hwaiting => absurd hwaiting (by rw [hparked.1]; exact Bool.false_ne_true)
    exact ⟨hsteps, hrests.eq_of_no_end hready, hrests.reports⟩
  · intro hrest frames hframes
    obtain ⟨count, rfl⟩ : ∃ count, frames = count + 1 := ⟨frames - 1, by omega⟩
    obtain ⟨d, hrun, hidles⟩ := runFrom_idles hready hrest 0 count
    refine ⟨d, hrun, ?_, hidles.reports, hidles.signals⟩
    have htaken : (c.machine.redraw && count + 1 == 0) = false := Bool.and_false _
    have hheard : (c.machine.redraw && count + 1 != 0) = c.machine.redraw := Bool.and_true _
    calc d = c.rested ((count + 1) * c.stepsPerFrame) (count + 1) d := hidles.console
      _ = _ := by
        simp only [rested, Machine.rested, hidles.keys, hidles.keypad, restedBeeps,
          Machine.BeepsWithin, restedRecorders, htaken, hheard]
        rfl

/-- A jump to the last instruction that fits into memory, which waits for a key.  The machine
waits past the end of memory, is given a key, and stays where it is. -/
theorem parked_machines_stay_parked_at_end :
    ∃ c : Console Cycle, assemble "schip" 2 true (.ofList [0]) = .ok c ∧
      let loaded := (Move.load [0x1F, 0xFD]).after c
      let written : Console Cycle := { loaded with
        engine := (loaded.engine.after (.writeByte 0xFFD 0xF3)).after (.writeByte 0xFFE 0x0A) }
      let before := Move.step.after written
      let waiting := Move.step.after before
      let path : List (Moment Cycle) :=
        [⟨waiting, .step⟩, ⟨Move.step.after waiting, .holdKey 5 true⟩]
      let held := (Move.holdKey 5 true).after (Move.step.after waiting)
      let parked := Move.step.after held
      before.Reachable ∧ before.loaded = true ∧ before.machine.Fetches ⟨0xF, 3, 0, 0xA⟩ ∧
        waiting.Reachable ∧ waiting.loaded = true ∧ waiting.machine.waiting = true ∧
        waiting.machine.pc = 0xFFF ∧ Path waiting path held ∧
        held.machine.pc = 0xFFF ∧ parked.machine.v.get 3 = 5 ∧
        parked.Reachable ∧ parked.loaded = true ∧ parked.Parked ∧
        ∃ d, run 3 parked = .ok 1 d ∧ d.machine.pc = 0xFFF ∧ d.frames = 3 := by
  have hassembled : assemble "schip" 2 true (Cycle.ofList [0]) = .ok _ := rfl
  refine ⟨_, hassembled, ?_⟩
  intro loaded written before waiting path held parked
  have hwritten : written.Reachable := by
    have hloaded : loaded.Reachable := (Reachable.assembled hassembled).move _
    have hfirst := hloaded.action (show HostAction.writeByte 0xFFD 0xF3 ≠ .tick by simp)
    exact hfirst.action (show HostAction.writeByte 0xFFE 0x0A ≠ .tick by simp)
  have hpath : Path waiting path held := .cons (.cons (.nil _))
  obtain ⟨hloaded, hawake, hpc, hword, hloaded', hreleased, hheld, hloaded'', hredraw, hframes⟩ :
      before.loaded = true ∧ before.machine.waiting = false ∧ before.machine.pc = 0xFFD ∧
        (⟨0xF, 3, 0, 0xA⟩ : Opcode).toNat = (before.machine.memory.read 0xFFD).toNat * 256 +
          (before.machine.memory.read (0xFFD + 1)).toNat ∧
        waiting.loaded = true ∧ waiting.keypad = releasedKeypad ∧
        (∀ key, held.keypad.get key = true ↔ key = 5) ∧ parked.loaded = true ∧
        parked.machine.redraw = true ∧ parked.frames = 0 := by
    decide +kernel
  have hmoves : ∀ moment ∈ path, moment.move.WithinFrame := by simp [path, Move.WithinFrame]
  have hkeys : ∀ moment ∈ path, moment.move = .step → moment.before.keypad = releasedKeypad := by
    simp [path, hreleased]
  have hbefore : before.Reachable := hwritten.move .step
  have hop : before.machine.Fetches ⟨0xF, 3, 0, 0xA⟩ := by
    rw [← hpc] at hword
    exact ⟨hawake, by rw [hpc]; decide, hword⟩
  -- the facts above are all that is used of these consoles
  have hrun : ∀ before held : Console Cycle, ∀ path, before.Reachable → before.loaded = true →
      before.machine.Fetches ⟨0xF, 3, 0, 0xA⟩ → before.machine.pc = 0xFFD →
      (Move.step.after before).loaded = true → Path (Move.step.after before) path held →
      (∀ moment ∈ path, moment.move.WithinFrame) →
      (∀ moment ∈ path, moment.move = .step → moment.before.keypad = releasedKeypad) →
      (∀ key, held.keypad.get key = true ↔ key = 5) →
      (Move.step.after held).loaded = true → (Move.step.after held).machine.redraw = true →
      (Move.step.after held).frames = 0 →
      (Move.step.after before).machine.waiting = true ∧
        (Move.step.after before).machine.pc = 0xFFF ∧ held.machine.pc = 0xFFF ∧
        (Move.step.after held).machine.v.get 3 = 5 ∧ (Move.step.after held).Parked ∧
        ∃ d, run 3 (Move.step.after held) = .ok 1 d ∧ d.machine.pc = 0xFFF ∧ d.frames = 3 := by
    intro before held path hbefore hloaded hop hpc hloaded' hpath hmoves hkeys hheld hloaded''
      hredraw hframes
    have hwaiting := hbefore.move .step
    obtain ⟨hwait, -⟩ := parked_machines_stay_parked hbefore hloaded
    obtain ⟨hwaits, hregister, hend⟩ := hwait _ hop rfl
    rw [hpc] at hend
    obtain ⟨-, hstays, -⟩ := parked_machines_stay_parked hwaiting hloaded'
    obtain ⟨-, hheldEq, hends⟩ := hstays hwaits path held hpath hmoves hkeys
    obtain ⟨key, hfirst, -, hstep⟩ := hends ⟨5, (hheld 5).mpr rfl⟩
    obtain rfl : key = 5 := (hheld key).mp hfirst.held
    have hparkedEq : Move.step.after held = _ := Attempt.after_eq_of_ok hstep
    have hpark : (Move.step.after held).Parked := by
      rw [hparkedEq]
      refine ⟨rfl, ?_⟩
      show (4095 : Int) ≤ (Move.step.after before).machine.pc
      rw [hend]
      decide
    have hparked := (hwaiting.path hpath).move .step
    obtain ⟨-, -, -, hrun⟩ := parked_machines_stay_parked hparked hloaded''
    obtain ⟨d, hd, hdEq, -⟩ := hrun (.inr hpark) 3 (by decide)
    rw [hredraw, if_pos rfl] at hd
    refine ⟨hwaits, hend, ?_, ?_, hpark, d, hd, ?_, ?_⟩
    · rw [hheldEq]
      exact hend
    · rw [hparkedEq]
      show (Slots.put (Move.step.after before).machine.v
        (Move.step.after before).machine.awaitedRegister _).get 3 = 5
      rw [hregister, Slots.get_put, if_pos rfl]
      rfl
    · rw [hdEq, hparkedEq]
      exact hend
    · rw [hdEq]
      show (Move.step.after held).frames + 3 = 3
      rw [hframes]
  obtain ⟨hwaits, hend, hheldPc, hregister, hpark, hlast⟩ := hrun before held path hbefore hloaded
    hop hpc hloaded' hpath hmoves hkeys hheld hloaded'' hredraw hframes
  exact ⟨hbefore, hloaded, hop, hbefore.move .step, hloaded', hwaits, hend, hpath, hheldPc,
    hregister, ((hbefore.move .step).path hpath).move .step, hloaded'', hpark, hlast⟩

end Console

end SuperChip
