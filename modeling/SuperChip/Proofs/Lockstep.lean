import SuperChip.Proofs.Host

/-!
# Engines that run in lockstep

Two engines run in lockstep under a sequence of actions if after it their
machines and random sources are the same and all faults and anomalies on the
way were.  Every part of a sequence is a sequence of its own, so lockstep under
all sequences means the same machine after every single action.

An action looks at the variant, the machine and the random source of an engine
and at nothing else (`Engine.outcome`).  Hence engines that agree in these three
stay in lockstep, whether they are strict and whoever listens to them.
-/

namespace SuperChip.Engine

variable {ρ : Type} [Generator ρ]

/-- Two engines do the same under a sequence of actions. -/
structure Lockstep (first second : Engine ρ) (actions : List HostAction) : Prop where
  machine : (first.afterAll actions).machine = (second.afterAll actions).machine
  random : (first.afterAll actions).random = (second.afterAll actions).random
  faults : first.faults actions = second.faults actions
  anomalies : first.anomalies actions = second.anomalies actions

theorem Lockstep.nil {first second : Engine ρ} (hmachine : first.machine = second.machine)
    (hrandom : first.random = second.random) : Lockstep first second [] :=
  ⟨hmachine, hrandom, rfl, rfl⟩

/-- One action with the same outcome for both engines comes in front of a
sequence in lockstep. -/
theorem Lockstep.cons {first second : Engine ρ} {action : HostAction} {rest : List HostAction}
    (houtcome : first.outcome action = second.outcome action)
    (hrest : Lockstep (first.after action) (second.after action) rest) :
    Lockstep first second (action :: rest) where
  machine := hrest.machine
  random := hrest.random
  faults := by
    simp only [Engine.faults, fault_eq, houtcome]
    rw [hrest.faults]
  anomalies := by
    simp only [Engine.anomalies, houtcome]
    rw [hrest.anomalies]

/-- Engines with the same variant, machine and random source stay in lockstep. -/
theorem lockstep_of_eq {first second : Engine ρ} (hvariant : first.variant = second.variant)
    (hmachine : first.machine = second.machine) (hrandom : first.random = second.random)
    (actions : List HostAction) : Lockstep first second actions := by
  induction actions generalizing first second with
  | nil => exact .nil hmachine hrandom
  | cons action rest ih =>
      have houtcome : first.outcome action = second.outcome action := by
        simp only [outcome, hvariant, hmachine, hrandom]
      refine .cons houtcome (ih ?_ ?_ ?_)
      · rw [after_variant, after_variant, hvariant]
      · rw [after_machine, after_machine, houtcome]
      · rw [after_random, after_random, houtcome]

/-- **Strictness is observation only.**  A strict engine and one that is not
strict, with listeners or without, have the same machine and random source after
any sequence of actions and meet the same faults.  The engine that is not strict
reports nothing, and a strict one with a listener reports the anomalies that the
other one passes over. -/
theorem strict_lockstep_plain (e : Engine ρ) (listening₁ listening₂ : Bool)
    (actions : List HostAction) :
    let strict : Engine ρ := { e with strict := true, listening := listening₁ }
    let plain : Engine ρ := { e with strict := false, listening := listening₂ }
    (strict.afterAll actions).machine = (plain.afterAll actions).machine ∧
      (strict.afterAll actions).random = (plain.afterAll actions).random ∧
      strict.faults actions = plain.faults actions ∧
      (plain.afterAll actions).reports = e.reports ∧
      (strict.afterAll actions).reports.toList =
        e.reports.toList ++ (if listening₁ then plain.anomalies actions else []) := by
  intro strict plain
  have hvariant : strict.variant = plain.variant := rfl
  have hlockstep : Lockstep strict plain actions := lockstep_of_eq hvariant rfl rfl actions
  have hplain : (plain.afterAll actions).reports.toList = e.reports.toList := by
    rw [toList_reports_afterAll]
    simp [plain]
  have hstrict := strict.toList_reports_afterAll actions
  rw [hlockstep.anomalies] at hstrict
  exact ⟨hlockstep.machine, hlockstep.random, hlockstep.faults, Array.toList_inj.mp hplain,
    by simpa [strict] using hstrict⟩

end SuperChip.Engine
