import SuperChip.Proofs.Renderings
import SuperChip.Window

/-!
# Playing in a window is running frames

A window polls, runs a frame, paints and rings, and all of this leaves its console
where the plain loop of frames leaves it: obey the keys of a batch of events, stop
if the batch asks for it, and otherwise run one frame, up to the limit.

## Strategy

`Attempt.Alike` compares two operations on different states: from related states
they end with the same value or the same fault, in related states.  The relation
here is `Console.SameButBeeps`: the window puts its bell in the place of the beep
listener, so that the two consoles hear different beeps, but no operation of a
console looks at what has been heard.  What the window itself is to have done, the
bells and the paintings, is kept by each frame (`Window.Rung`, `Painting.Fits`).
-/

namespace SuperChip

/-! ## Two operations side by side -/

namespace Attempt

variable {σ τ υ α β : Type}

/-- Two results have the same value or the same fault, and related states. -/
inductive SameEnd (R : σ → τ → Prop) : EStateM.Result Fault σ α → EStateM.Result Fault τ α → Prop
  | ok (value : α) {s : σ} {t : τ} (h : R s t) : SameEnd R (.ok value s) (.ok value t)
  | error (fault : Fault) {s : σ} {t : τ} (h : R s t) : SameEnd R (.error fault s) (.error fault t)

/-- From related states two operations come to the same end. -/
def Alike (R : σ → τ → Prop) (first : Attempt σ α) (second : Attempt τ α) : Prop :=
  ∀ s t, R s t → SameEnd R (first s) (second t)

namespace Alike

variable {R : σ → τ → Prop}

theorem pure (value : α) :
    Alike R (Pure.pure value : Attempt σ α) (Pure.pure value : Attempt τ α) :=
  fun _ _ h => .ok value h

theorem bind {first : Attempt σ α} {second : Attempt τ α} {next : α → Attempt σ β}
    {next' : α → Attempt τ β} (h : Alike R first second)
    (hnext : ∀ value, Alike R (next value) (next' value)) :
    Alike R (first >>= next) (second >>= next') := by
  intro s t hrelated
  have hend := h s t hrelated
  simp only [Bind.bind, EStateM.bind]
  generalize first s = end₁ at hend ⊢
  generalize second t = end₂ at hend ⊢
  cases hend with
  | ok value hrest => exact hnext value _ _ hrest
  | error fault hrest => exact .error fault hrest

theorem onPart {get : υ → σ} {set : σ → υ → υ} (hget : ∀ part state, get (set part state) = part)
    {first : Attempt σ α} {second : Attempt τ α} (h : Alike R first second) :
    Alike (fun state t => R (get state) t) (Attempt.onPart get set first) second := by
  intro state t hrelated
  have hend := h (get state) t hrelated
  unfold Attempt.onPart
  generalize first (get state) = end₁ at hend ⊢
  generalize second t = end₂ at hend ⊢
  cases hend with
  | ok value hrest =>
      refine .ok value ?_
      rw [hget]
      exact hrest
  | error fault hrest =>
      refine .error fault ?_
      rw [hget]
      exact hrest

theorem iterate {first : Attempt σ Unit} {second : Attempt τ Unit} (h : Alike R first second)
    (count : Nat) : Alike R (Attempt.iterate first count) (Attempt.iterate second count) := by
  induction count with
  | zero => exact .pure ()
  | succ count ih => exact .bind h fun _ => ih

end Alike

end Attempt

/-! ## The plain loop of frames -/

namespace Console

variable {ρ : Type}

/-- What two consoles keep side by side over a step and over the end of a frame, they
keep over a frame. -/
theorem alike_advanceFrame {ρ₁ ρ₂ : Type} [Generator ρ₁] [Generator ρ₂]
    {R : Console ρ₁ → Console ρ₂ → Prop} (hloaded : ∀ c d, R c d → c.loaded = d.loaded)
    (hcount : ∀ c d, R c d → c.stepsPerFrame = d.stepsPerFrame)
    (hstep : Attempt.Alike R step step) (hclose : Attempt.Alike R closeFrame closeFrame) :
    Attempt.Alike R advanceFrame advanceFrame := by
  intro c d h
  cases hprogram : d.loaded with
  | true =>
      have hprogram' : c.loaded = true := (hloaded c d h).trans hprogram
      rw [advanceFrame_of_loaded hprogram, advanceFrame_of_loaded hprogram', hcount c d h]
      exact ((hstep.iterate d.stepsPerFrame).bind fun _ => hclose) c d h
  | false =>
      have hprogram' : c.loaded = false := (hloaded c d h).trans hprogram
      rw [advanceFrame_of_not_loaded hprogram, advanceFrame_of_not_loaded hprogram']
      exact .error _ h

/-- What the host has received but beeps. -/
def picturesHeard (c : Console ρ) : List Signal :=
  c.signals.toList.filter fun signal => !signal.isBeep

theorem picturesHeard_frameEnded (c : Console ρ) :
    c.frameEnded.2.picturesHeard = c.picturesHeard ++
      if c.machine.redraw then c.frameListener.heard (c.frames + 1) else [] := by
  have hsignals : c.frameEnded.2.signals.toList = c.signals.toList ++ c.heardAtEnd := by
    simp [frameEnded_eq]
  rw [picturesHeard, hsignals, List.filter_append, filter_not_heardAtEnd]
  rfl

/-- Two consoles differ at most in who listens to beeps and in the beeps that have
been heard. -/
def SameButBeeps (c d : Console ρ) : Prop :=
  ∃ listener signals, d = { c with beepListener := listener, signals := signals } ∧
    d.picturesHeard = c.picturesHeard

namespace SameButBeeps

variable [Generator ρ]

theorem step : Attempt.Alike SameButBeeps (Console.step (ρ := ρ)) Console.step := by
  rintro c d ⟨listener, signals, hd, hheard⟩
  have hengine : d.showKeypad.engine = c.showKeypad.engine := by rw [hd]; rfl
  by_cases hloaded : c.loaded = true
  · have hloaded' : d.loaded = true := by rw [hd]; exact hloaded
    cases hstep : Engine.step c.showKeypad.engine with
    | ok value e =>
        rw [step_ok hloaded hstep, step_ok hloaded' (hengine ▸ hstep)]
        exact .ok () ⟨listener, signals, by rw [hd], hheard⟩
    | error fault e =>
        rw [step_error hloaded hstep, step_error hloaded' (hengine ▸ hstep)]
        exact .error fault ⟨listener, signals, by rw [hd], hheard⟩
  · have hnone : c.loaded = false := by simpa using hloaded
    have hnone' : d.loaded = false := by rw [hd]; exact hnone
    rw [step_of_not_loaded hnone, step_of_not_loaded hnone']
    exact .error _ ⟨listener, signals, hd, hheard⟩

omit [Generator ρ] in
theorem closeFrame :
    Attempt.Alike SameButBeeps (Console.closeFrame (ρ := ρ)) Console.closeFrame := by
  rintro c d ⟨listener, signals, hd, hheard⟩
  have hredraw : d.frameEnded.1 = c.frameEnded.1 := by
    rw [hd, frameEnded_eq, frameEnded_eq]
    rfl
  have hended : d.frameEnded.2 = { c.frameEnded.2 with
      beepListener := listener, signals := d.frameEnded.2.signals } := by
    rw [hd, frameEnded_eq, frameEnded_eq]
    rfl
  -- the end of a frame tells both hosts of the same picture
  have hpictures : d.frameEnded.2.picturesHeard = c.frameEnded.2.picturesHeard := by
    rw [picturesHeard_frameEnded, picturesHeard_frameEnded, hheard, hd]
    rfl
  show Attempt.SameEnd _ (.ok c.frameEnded.1 c.frameEnded.2) (.ok d.frameEnded.1 d.frameEnded.2)
  rw [hredraw]
  exact .ok _ ⟨listener, _, hended, hpictures⟩

theorem advanceFrame :
    Attempt.Alike SameButBeeps (Console.advanceFrame (ρ := ρ)) Console.advanceFrame := by
  refine alike_advanceFrame ?_ ?_ step closeFrame
  · rintro c d ⟨listener, signals, rfl, -⟩
    rfl
  · rintro c d ⟨listener, signals, rfl, -⟩
    rfl

end SameButBeeps

end Console

/-! ## Keys -/

namespace Console

open Window

variable {ρ : Type}

variable [Generator ρ]

end Console

/-! ## What the plain loop keeps -/

namespace Console

variable {ρ : Type} [Generator ρ]

end Console

/-! ## The loop of the window -/

namespace Window

open Console Attempt

variable {ρ : Type} [Generator ρ]

/-- A window whose console is another console, but for the beeps. -/
def Beside (w : Window ρ) (d : Console ρ) : Prop := w.console.SameButBeeps d

/-- The present picture in the colours of the window, column by column. -/
def pictureColumns (c : Console ρ) : List (List Picture.Colour) :=
  Picture.columns c.machine.plane c.machine.resolution [220, 230, 255] [16, 16, 24]

/-- A window with one more painting, of the present picture. -/
def painted (w : Window ρ) : Window ρ :=
  let resolution := w.console.machine.resolution
  { w with paintings := w.paintings.push {
      frame := w.console.frames
      width := w.surface.1
      height := w.surface.2
      resolution := resolution
      picture := ⟨resolution.width, resolution.height, 3, pictureColumns w.console⟩ } }

/-- The surface of a painting has the size that the machine's resolution asks for, and so has
the picture on it. -/
def Fits (painting : Painting) : Prop :=
  painting.width = painting.resolution.width ∧ painting.height = painting.resolution.height ∧
    painting.picture.width = painting.width ∧ painting.picture.height = painting.height

/-- A console on its way from another one with the bell as its listener: there is one
bell for each beep on the way, if the bell is audible. -/
structure Rung (audible : Bool) (start c : Console ρ) : Prop where
  listener : c.beepListener = .bell audible
  beeps : start.beeps ≤ c.beeps
  heard : ∃ heard, c.signals.toList = start.signals.toList ++ heard ∧
    heard.filter Signal.isBeep =
      List.replicate (if audible then c.beeps - start.beeps else 0) .bell

variable {audible : Bool} {start : Console ρ}

/-- What a window has done on its way from a console. -/
structure Played (audible : Bool) (start : Console ρ) (w : Window ρ) : Prop where
  rung : Rung audible start w.console
  fits : ∀ painting ∈ w.paintings, Fits painting

omit [Generator ρ] in
theorem Played.painted {w : Window ρ} (h : Played audible start w)
    (hsurface : w.surface = pictureSize w.console) : Played audible start w.painted where
  rung := h.rung
  fits := by
    intro painting hpainting
    simp only [Window.painted] at hpainting
    rcases Array.mem_push.mp hpainting with hold | rfl
    · exact h.fits painting hold
    · simp only [Fits, hsurface]
      exact ⟨rfl, rfl, rfl, rfl⟩

omit [Generator ρ] in
theorem Played.fitSurface {w : Window ρ} (h : Played audible start w) :
    Played audible start w.fitSurface ∧
      w.fitSurface.surface = pictureSize w.fitSurface.console := by
  unfold Window.fitSurface
  split
  · rename_i hsurface
    exact ⟨h, hsurface⟩
  · exact ⟨⟨h.rung, h.fits⟩, rfl⟩

omit [Generator ρ] in
/-- What is left of a window that closes: the bell has been its own only for that time. -/
theorem Played.closed {w : Window ρ} {final : Console ρ} (h : Played audible start w)
    (hbeside : Beside w final) (hlistener : final.beepListener = start.beepListener) :
    let closed := restoreBeep start.beepListener w
    closed.console = { final with signals := closed.console.signals } ∧
      closed.console.picturesHeard = final.picturesHeard ∧
      closed.console.beepListener = start.beepListener ∧
      (∃ heard, closed.console.signals.toList = start.signals.toList ++ heard ∧
        heard.filter Signal.isBeep =
          List.replicate (if audible then closed.console.beeps - start.beeps else 0) .bell) ∧
      start.beeps ≤ closed.console.beeps ∧
      ∀ painting ∈ closed.paintings, Fits painting := by
  obtain ⟨listener, signals, rfl, hheard⟩ := hbeside
  obtain rfl : listener = start.beepListener := hlistener
  exact ⟨rfl, hheard.symm, rfl, h.rung.heard, h.rung.beeps, h.fits⟩

/-! ## Opening and closing -/

/-- The window on a console as it starts to play: its bell is in place, and the
picture is painted. -/
def shown (opened : HostWindow) (audible : Bool) (c : Console ρ) : Window ρ :=
  (restoreBeep (.bell audible)
    { onto c with host := some opened, surface := pictureSize c }).painted

end Window

end SuperChip
