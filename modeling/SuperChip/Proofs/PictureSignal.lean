import SuperChip.Proofs.Execution
import SuperChip.Proofs.Host

/-!
# Every change of the picture is signalled

A host looks at the picture of a machine only when the machine has signalled a
change.  That is enough: whatever an instruction does to the plane or to the
resolution, it leaves the signal behind.  Only the other direction fails, since
drawing nothing is signalled as well.

`Signals before after` says this of two machines.  The relation is reflexive
and transitive as long as nobody takes the signal away, so it goes from one
instruction to whole sequences.
-/

namespace SuperChip.Machine

/-- Two machines show the same picture and give the same signal of a change. -/
structure SamePicture (before after : Machine) : Prop where
  redraw : after.redraw = before.redraw
  plane : after.plane = before.plane
  resolution : after.resolution = before.resolution

/-- A machine gives the signal of a change, or its picture is an old one. -/
def Signals (before after : Machine) : Prop := after.redraw = true ∨ SamePicture before after

theorem SamePicture.refl (m : Machine) : SamePicture m m := ⟨rfl, rfl, rfl⟩

theorem SamePicture.trans {first second third : Machine} (hfirst : SamePicture first second)
    (hsecond : SamePicture second third) : SamePicture first third :=
  ⟨hsecond.redraw.trans hfirst.redraw, hsecond.plane.trans hfirst.plane,
    hsecond.resolution.trans hfirst.resolution⟩

theorem SamePicture.framePixels {before after : Machine} (h : SamePicture before after) :
    after.framePixels = before.framePixels := by
  simp only [Machine.framePixels, pictureRows, h.plane, h.resolution]

theorem Signals.trans {first second third : Machine} (hfirst : Signals first second)
    (hsecond : Signals second third) : Signals first third := by
  rcases hsecond with hredraw | hsame
  · exact .inl hredraw
  · rcases hfirst with hredraw | hsame'
    · exact .inl (hsame.redraw.trans hredraw)
    · exact .inr (hsame'.trans hsame)

/-! ## One step -/

/-- Of the things that an instruction can do, only painting changes the picture, and
painting gives the signal. -/
theorem Executed.signals {m after : Machine} {instruction : Instruction}
    (h : Executed m instruction after) : Signals m after := by
  cases h with
  | painted => exact .inl rfl
  | _ => exact .inr ⟨rfl, rfl, rfl⟩

variable {m : Machine}

theorem Stepped.signals {variant : Variant} {after : Machine} (h : Stepped variant m after) :
    Signals m after := by
  cases h with
  | awaited =>
      obtain ⟨v, waiting, hresolved⟩ := m.exists_resolveWait_eq
      rw [hresolved]
      exact .inr ⟨rfl, rfl, rfl⟩
  | stayed => exact .inr (.refl m)
  | undefined => exact .inr ⟨rfl, rfl, rfl⟩
  | executed _ _ number =>
      have hfetched : Signals m m.fetched := .inr ⟨rfl, rfl, rfl⟩
      exact hfetched.trans (m.fetched.executed variant number _).signals

variable (m)

/-- A step that changes the picture gives the signal. -/
theorem signals_step {ρ : Type} [Generator ρ] (variant : Variant) (random : ρ) :
    Signals m (m.step variant random).1.machine :=
  (stepped variant random m).signals

end SuperChip.Machine
