import SuperChip.Proofs.Resting

/-!
# Steps of the monitor and steps of a host

The command `step` ends early when the machine goes on waiting for a key.  A host that
makes the same number of steps on its own does not look at the machine between them, and
yet both come to the same engine.  Only the count of steps tells them apart.

## Strategy

A step that leaves a machine in its wait has found no key pressed.  It has shown the keypad
to the machine as well, so that the console is `Stuck`: any further steps are counted and do
nothing else (`Stuck.iterate_step`).  In front of such a step the command makes the steps of
the host one by one, and an induction over the steps gives the whole command
(`steps_eq_iterate`).
-/

namespace SuperChip

variable {ρ : Type}

namespace Console

/-- The machine waits for a key, and the keypad that it has been shown has none pressed. -/
structure Stuck (c : Console ρ) : Prop where
  loaded : c.loaded = true
  waiting : c.machine.waiting = true
  keypad : c.keypad = releasedKeypad
  shown : c.showKeypad = c

theorem eq_releasedKeypad {keypad : Vector Bool 16} (h : ¬ ∃ key, keypad.get key = true) :
    keypad = releasedKeypad := by
  refine Vector.ext fun key hkey => ?_
  have hup : keypad.get ⟨key, hkey⟩ = false :=
    Bool.eq_false_iff.mpr fun hheld => h ⟨⟨key, hkey⟩, hheld⟩
  calc keypad[key] = keypad.get ⟨key, hkey⟩ := rfl
    _ = releasedKeypad.get ⟨key, hkey⟩ := hup.trans (get_releasedKeypad ⟨key, hkey⟩).symm

end Console

variable [Generator ρ]

/-! ## Waits that go on -/

/-- The step of a moment leaves the machine in the wait that it was in. -/
def Moment.stalls (moment : Moment ρ) : Bool :=
  moment.before.machine.waiting && moment.after.machine.waiting

/-- How many steps the command makes of those that a host would make: all of them, or those
up to the first that stalls. -/
def stepsMade : List (Moment ρ) → Nat
  | [] => 0
  | moment :: rest => if moment.stalls then 1 else stepsMade rest + 1

theorem stepsMade_of_none {moments : List (Moment ρ)}
    (h : ∀ moment ∈ moments, moment.stalls = false) : stepsMade moments = moments.length := by
  induction moments with
  | nil => rfl
  | cons moment rest ih =>
      have hfirst := h moment List.mem_cons_self
      have hrest := ih fun later hmem => h later (List.mem_cons_of_mem _ hmem)
      rw [stepsMade, hfirst, if_neg Bool.false_ne_true, hrest, List.length_cons]

theorem stepsMade_of_first {front behind : List (Moment ρ)} {stalled : Moment ρ}
    (hfront : ∀ moment ∈ front, moment.stalls = false) (hstalled : stalled.stalls = true) :
    stepsMade (front ++ stalled :: behind) = front.length + 1 := by
  induction front with
  | nil => rw [List.nil_append, stepsMade, if_pos hstalled, List.length_nil]
  | cons moment rest ih =>
      have hfirst := hfront moment List.mem_cons_self
      have hrest := ih fun later hmem => hfront later (List.mem_cons_of_mem _ hmem)
      rw [List.cons_append, stepsMade, hfirst, if_neg Bool.false_ne_true, hrest, List.length_cons]

namespace Console

variable {stepsPerFrame : Nat} {c d : Console ρ}

theorem Running.eq_of_step (hc : c.Running stepsPerFrame) (hstep : Console.step c = .ok () d) :
    d = { c with engine := d.engine, steps := c.steps + 1 } := by
  rw [hc.sound.step_eq hc.loaded] at hstep
  cases hstep
  rfl

theorem length_moments (hc : c.Running stepsPerFrame) (count : Nat) :
    (c.moments (List.replicate count .step)).length = count := by
  induction count generalizing c with
  | zero => rfl
  | succ count ih =>
      obtain ⟨d, hstep, hd⟩ := hc.step
      rw [moments_step hstep, List.length_cons, ih hd]

theorem stalls_of_step (hstep : step c = .ok () d) :
    (Moment.mk c .step).stalls = (c.machine.waiting && d.machine.waiting) := by
  have hafter : (Moment.mk c .step).after = d := Attempt.after_eq_of_ok hstep
  rw [Moment.stalls, hafter]

/-- A step that leaves a machine in its wait leaves it stuck. -/
theorem stuck_of_stalled (hloaded : c.loaded = true) (hwaiting : c.machine.waiting = true)
    (hstep : step c = .ok () d) (hstalled : d.machine.waiting = true) : d.Stuck := by
  by_cases hheld : ∃ key, c.keypad.get key = true
  · obtain ⟨key, -, hfound⟩ := step_of_held hloaded hwaiting hheld
    rw [hfound] at hstep
    cases hstep
    cases hstalled
  · have hkeypad := eq_releasedKeypad hheld
    rw [step_of_waiting hloaded hwaiting hkeypad] at hstep
    cases hstep
    exact ⟨hloaded, hwaiting, hkeypad, rfl⟩

namespace Stuck

theorem step_eq (h : c.Stuck) : step c = .ok () { c with steps := c.steps + 1 } := by
  rw [step_of_waiting h.loaded h.waiting h.keypad, h.shown]

omit [Generator ρ] in
theorem counted (h : c.Stuck) (steps : Nat) : Stuck { c with steps := steps } where
  loaded := h.loaded
  waiting := h.waiting
  keypad := h.keypad
  shown := congrArg (fun before => { before with steps := steps }) h.shown

/-- Steps of a stuck console are counted, and that is all. -/
theorem iterate_step (h : c.Stuck) (count : Nat) :
    Attempt.iterate step count c = .ok () { c with steps := c.steps + count } := by
  induction count generalizing c with
  | zero => rfl
  | succ count ih =>
      have htotal : c.steps + 1 + count = c.steps + (count + 1) := by omega
      rw [Console.iterate_step h.step_eq, ih (h.counted _), htotal]

end Stuck

end Console

namespace Monitor

variable {m : Monitor ρ}

/-- The command comes to the engine that the host's steps come to. -/
theorem steps_eq_iterate {stepsPerFrame : Nat} (count : Nat)
    (hc : m.console.Running stepsPerFrame) :
    ∃ (plain : Console ρ) (shown : List String),
      Attempt.iterate Console.step count m.console = .ok () plain ∧
      plain = { m.console with
        engine := plain.engine, steps := m.console.steps + count } ∧
      steps count m = .ok () { m with
        console := { m.console with
          engine := plain.engine
          steps := m.console.steps +
            stepsMade (m.console.moments (List.replicate count .step)) }
        printed := m.printed ++ shown.toArray } := by
  induction count generalizing m with
  | zero =>
      refine ⟨m.console, [], rfl, rfl, ?_⟩
      simp only [List.replicate_zero, Console.moments, stepsMade, Array.append_empty]
      rfl
  | succ count ih =>
      obtain ⟨d, hstep, hd⟩ := hc.step
      have hform := hc.eq_of_step hstep
      have hiterate := Console.iterate_step hstep count
      have hmade : stepsMade (m.console.moments (List.replicate (count + 1) .step)) =
          if m.console.machine.waiting && d.machine.waiting then 1
          else stepsMade (d.moments (List.replicate count .step)) + 1 := by
        rw [Console.moments_step hstep, stepsMade, Console.stalls_of_step hstep]
      by_cases hstalled : m.console.machine.waiting = true ∧ d.machine.waiting = true
      · -- here the command ends, and the steps that are left to the host only count themselves
        obtain ⟨hwaiting, hstill⟩ := hstalled
        have hstuck := Console.stuck_of_stalled hc.loaded hwaiting hstep hstill
        refine ⟨{ d with steps := d.steps + count }, [waitLine d.machine], ?_, ?_, ?_⟩
        · rw [hiterate, hstuck.iterate_step]
        · rw [hform, Nat.add_right_comm, Nat.add_assoc]
        · rw [steps_of_stalled hwaiting hstep hstill, hmade, hwaiting, hstill]
          simp only [Bool.and_self, if_true]
          rw [← hform, Array.push_eq_append]
      · -- both make this step, and the rest is made from the same console
        have hgoes : m.console.machine.waiting = true → d.machine.waiting = false :=
          fun hwaiting => Bool.eq_false_iff.mpr fun hstill => hstalled ⟨hwaiting, hstill⟩
        have hnone : ¬ (m.console.machine.waiting && d.machine.waiting) = true := by
          rwa [Bool.and_eq_true]
        have hrebuilt : ∀ (engine : Engine ρ) (more : Nat),
            ({ d with engine := engine, steps := d.steps + more } : Console ρ) =
              { m.console with engine := engine, steps := m.console.steps + (more + 1) } := by
          intro engine more
          rw [hform, Nat.add_right_comm, Nat.add_assoc]
        let line := (Moment.traced? ⟨m.console, .step⟩).toList.map traceLine
        obtain ⟨plain, shown, hplain, hrest, hcommand⟩ :=
          @ih { m with console := d, printed := m.printed ++ line.toArray } hd
        refine ⟨plain, line ++ shown, ?_, ?_, ?_⟩
        · rw [hiterate, hplain]
        · calc plain = { d with engine := plain.engine, steps := d.steps + count } := hrest
            _ = _ := hrebuilt plain.engine count
        · have hprinted : m.printed ++ line.toArray ++ shown.toArray =
              m.printed ++ (line ++ shown).toArray := by simp
          rw [steps_of_step hstep hgoes, hcommand, hmade, if_neg hnone, hrebuilt, ← hprinted]

/-! ## The command -/

/-- **Steps of the monitor are steps of the host.**  The command `step` comes to the engine
that as many steps of the host come to, with the same keypad, although it ends at the first
step that leaves the machine in its wait for a key.  It changes nothing else but the count
of steps, which grows by the steps up to that one, or by all of them if there is none. -/
theorem step_agrees_with_host {m : Monitor ρ} (hm : m.Reachable)
    (hloaded : m.console.loaded = true) (files : Files) {line argument : String}
    (hline : MonitorLine.read line = .command .step argument) {count : Int}
    (hcount : numberOr 1 argument m = .ok count m) :
    ∃ (plain : Console ρ) (made : Nat) (shown : List String),
      let moments := m.console.moments (List.replicate count.toNat .step)
      Attempt.iterate Console.step count.toNat m.console = .ok () plain ∧
      plain = { m.console with
        engine := plain.engine, steps := m.console.steps + count.toNat } ∧
      execute files line m = .ok false { m with
        console := { m.console with
          engine := plain.engine, steps := m.console.steps + made }
        printed := m.printed ++ shown.toArray } ∧
      ((∀ moment ∈ moments, moment.stalls = false) → made = count.toNat) ∧
      ∀ front stalled behind, moments = front ++ stalled :: behind →
        (∀ moment ∈ front, moment.stalls = false) → stalled.stalls = true →
        made = front.length + 1 := by
  have hrunning : m.console.Running m.console.stepsPerFrame := ⟨hm.sound, hloaded, rfl⟩
  obtain ⟨plain, shown, hplain, hform, hsteps⟩ := steps_eq_iterate count.toNat hrunning
  refine ⟨plain, stepsMade (m.console.moments (List.replicate count.toNat .step)), shown,
    hplain, hform, ?_, ?_, ?_⟩
  · rw [execute_of_steps hloaded files hline hcount]
    simp only [goOn, bind, EStateM.bind, hsteps]
    rfl
  · intro hnone
    rw [stepsMade_of_none hnone, Console.length_moments hrunning]
  · intro front stalled behind hsplit hfront hstalled
    rw [hsplit, stepsMade_of_first hfront hstalled]

/-- The host counts three steps of a program that waits for a key at once, and the command
two. -/
theorem step_agrees_with_host_in_wait :
    ∃ c : Console Cycle, Console.assemble "schip" 10 false (.ofList [0]) = .ok c ∧
      let m := observing ((Move.load [0xF0, 0x0A]).after c)
      m.Reachable ∧ m.console.loaded = true ∧
        MonitorLine.read "step 3" = .command .step "3" ∧ numberOr 1 "3" m = .ok 3 m ∧
        ∃ (plain : Console Cycle) (shown : List String),
          Attempt.iterate Console.step 3 m.console = .ok () plain ∧ plain.steps = 3 ∧
          execute Folder.empty.files "step 3" m = .ok false { m with
            console := { m.console with engine := plain.engine, steps := 2 }
            printed := m.printed ++ shown.toArray } := by
  have hassembled : Console.assemble "schip" 10 false (Cycle.ofList [0]) = .ok _ := rfl
  refine ⟨_, hassembled, ?_⟩
  intro m
  have hreachable : m.Reachable :=
    .observing ((Console.sound_of_assemble hassembled).after (.load [0xF0, 0x0A])) none
  have hfacts : m.console.loaded = true ∧ m.console.steps = 0 ∧
      (m.console.moments (List.replicate 3 .step)).map Moment.stalls = [false, true, true] := by
    decide +kernel
  have hline : MonitorLine.read "step 3" = .command .step "3" := by decide +kernel
  have hcount : numberOr 1 "3" m = .ok 3 m := by
    have hnumber : trimmed "3" ≠ "" := by decide +kernel
    exact numberOr_of_readNumber hnumber rfl m
  obtain ⟨hloaded, hsteps, hstalls⟩ := hfacts
  obtain ⟨plain, made, shown, hplain, hform, hexecute, -, hfirst⟩ :=
    step_agrees_with_host hreachable hloaded Folder.empty.files hline hcount
  -- of the three steps the second one stalls
  obtain ⟨first, rest, hmoments, hgoes, hrest⟩ := List.map_eq_cons_iff.mp hstalls
  obtain ⟨second, behind, rfl, hstalled, -⟩ := List.map_eq_cons_iff.mp hrest
  have hmade : made = 2 := by
    refine hfirst [first] second behind hmoments ?_ hstalled
    intro moment hmem
    rwa [List.mem_singleton.mp hmem]
  refine ⟨hreachable, hloaded, hline, hcount, plain, shown, hplain, ?_, ?_⟩
  · rw [hform, hsteps]
    rfl
  · rw [hexecute, hmade, hsteps]

end Monitor

end SuperChip
