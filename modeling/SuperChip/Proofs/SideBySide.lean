import SuperChip.Proofs.RandomBytes
import SuperChip.Proofs.WindowLoop

/-!
# Consoles side by side

Two consoles with one variant, one machine and the same counters may still differ:
in who listens to them and what has been heard, in whether they report anomalies,
and in their random sources, as long as these give the same bytes.  A step looks at
none of this, and neither does the end of a frame; it only tells the listeners.  So a
run of frames comes to the same end on both, with the same picture and the same
counts.

`Together` is what the consoles have in common, and it is kept by a step and by the
end of a frame; the run follows by induction on its frames.
-/

namespace SuperChip

namespace Attempt

variable {σ τ : Type} {R : σ → τ → Prop}

/-- Operations without a value are compared by their faults and their states. -/
theorem SameEnd.of_after {first : Attempt σ Unit} {second : Attempt τ Unit} {s : σ} {t : τ}
    (hfault : fault? first s = fault? second t) (hafter : R (after first s) (after second t)) :
    SameEnd R (first s) (second t) := by
  unfold fault? at hfault
  unfold after at hafter
  -- equal faults mean that both go on or both fail
  cases hfirst : first s with
  | ok value s' =>
      cases hsecond : second t with
      | ok value' t' =>
          rw [hfirst, hsecond] at hafter
          exact .ok () hafter
      | error fault t' =>
          rw [hfirst, hsecond] at hfault
          cases hfault
  | error fault s' =>
      cases hsecond : second t with
      | ok value t' =>
          rw [hfirst, hsecond] at hfault
          cases hfault
      | error fault' t' =>
          rw [hfirst, hsecond] at hfault hafter
          cases hfault
          exact .error fault hafter

end Attempt

namespace Console

variable {ρ₁ ρ₂ : Type} [Generator ρ₁] [Generator ρ₂]

/-- Two consoles do the same: they agree in the engine, but for its reports, and in
the host's side of it, but for the listeners. -/
structure Together (c : Console ρ₁) (d : Console ρ₂) : Prop where
  engine : c.engine.Together d.engine
  stepsPerFrame : c.stepsPerFrame = d.stepsPerFrame
  keypad : c.keypad = d.keypad
  frames : c.frames = d.frames
  steps : c.steps = d.steps
  beeps : c.beeps = d.beeps
  loaded : c.loaded = d.loaded

namespace Together

variable {c : Console ρ₁} {d : Console ρ₂}

theorem machine (h : Together c d) : c.machine = d.machine := h.engine.machine

theorem showKeypad (h : Together c d) : c.showKeypad.engine.Together d.showKeypad.engine where
  variant := h.engine.variant
  machine := by
    show { c.machine with keys := keyBytes c.keypad } = { d.machine with keys := keyBytes d.keypad }
    rw [h.machine, h.keypad]
  random := h.engine.random

theorem load (h : Together c d) {program : List UInt8} (hfits : program.length ≤ programLimit) :
    Together ((Move.load program).after c) ((Move.load program).after d) := by
  have hmachine : c.machine.restarted program = d.machine.restarted program := by
    rw [h.machine]
  rw [Move.after_load_of_fits c hfits, Move.after_load_of_fits d hfits]
  exact ⟨⟨h.engine.variant, hmachine, h.engine.random⟩, h.stepsPerFrame, rfl, rfl, rfl, rfl, rfl⟩

theorem step : Attempt.Alike Together (Console.step (ρ := ρ₁)) (Console.step (ρ := ρ₂)) := by
  intro c d h
  by_cases hloaded : c.loaded = true
  · have hloaded' : d.loaded = true := h.loaded ▸ hloaded
    -- engines in the same state under the same keys fail alike
    have hfault : c.showKeypad.engine.fault? .step = d.showKeypad.engine.fault? .step := by
      rw [Engine.fault_eq, Engine.fault_eq, (h.showKeypad.outcome .step).1]
    have hend := Attempt.SameEnd.of_after (R := Engine.Together) hfault (h.showKeypad.after .step)
    simp only [Engine.perform] at hend
    generalize hstep : Engine.step c.showKeypad.engine = end₁ at hend
    generalize hstep' : Engine.step d.showKeypad.engine = end₂ at hend
    have hsteps : c.steps + 1 = d.steps + 1 := by rw [h.steps]
    cases hend with
    | ok value hengine =>
        rw [step_ok hloaded hstep, step_ok hloaded' hstep']
        exact .ok () ⟨hengine, h.stepsPerFrame, h.keypad, h.frames, hsteps, h.beeps, h.loaded⟩
    | error fault hengine =>
        rw [step_error hloaded hstep, step_error hloaded' hstep']
        exact .error fault
          ⟨hengine, h.stepsPerFrame, h.keypad, h.frames, h.steps, h.beeps, h.loaded⟩
  · have hnone : c.loaded = false := by simpa using hloaded
    have hnone' : d.loaded = false := h.loaded ▸ hnone
    rw [step_of_not_loaded hnone, step_of_not_loaded hnone']
    exact .error _ h

theorem closeFrame :
    Attempt.Alike Together (Console.closeFrame (ρ := ρ₁)) (Console.closeFrame (ρ := ρ₂)) := by
  intro c d h
  have hredraw : d.frameEnded.1 = c.frameEnded.1 := by
    rw [frameEnded_eq, frameEnded_eq, h.machine]
  have hended : Together c.frameEnded.2 d.frameEnded.2 := by
    have hmachine : c.machine.tick.takeBeep.takeRedraw = d.machine.tick.takeBeep.takeRedraw := by
      rw [h.machine]
    rw [frameEnded_eq, frameEnded_eq]
    refine ⟨⟨h.engine.variant, hmachine, h.engine.random⟩, h.stepsPerFrame, h.keypad, ?_, h.steps,
      ?_, h.loaded⟩
    · rw [h.frames]
    · rw [h.machine, h.beeps]
  show Attempt.SameEnd _ (.ok c.frameEnded.1 c.frameEnded.2) (.ok d.frameEnded.1 d.frameEnded.2)
  rw [hredraw]
  exact .ok _ hended

theorem advanceFrame :
    Attempt.Alike Together (Console.advanceFrame (ρ := ρ₁)) (Console.advanceFrame (ρ := ρ₂)) :=
  alike_advanceFrame (fun _ _ h => h.loaded) (fun _ _ h => h.stepsPerFrame) step closeFrame

theorem runFrom (redraws frames : Nat) :
    Attempt.Alike Together (Console.runFrom (ρ := ρ₁) redraws frames)
      (Console.runFrom (ρ := ρ₂) redraws frames) := by
  induction frames generalizing redraws with
  | zero => exact .pure redraws
  | succ frames ih => exact advanceFrame.bind fun _ => ih _

/-- A run that succeeds on one console succeeds on the other. -/
theorem exists_run (h : Together c d) {frames : Int} {redraws : Nat} {last : Console ρ₁}
    (hrun : Console.run frames c = .ok redraws last) :
    ∃ last', Console.run frames d = .ok redraws last' ∧ Together last last' := by
  have hend := runFrom 0 frames.toNat c d h
  rw [Console.run] at hrun
  rw [hrun] at hend
  generalize hrun' : Console.runFrom 0 frames.toNat d = end' at hend
  cases hend with
  | ok _ hlast => exact ⟨_, hrun', hlast⟩

end Together

end Console

end SuperChip
