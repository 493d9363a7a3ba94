import SuperChip.Console.Frame
import SuperChip.Proofs.Host

/-!
# What the end of a frame does

At the end of a frame the timers tick, the two signals of the machine are taken
away, the frame and its beep are counted, and the listeners hear of both.  A
listener is never more than a log: the host listeners and the bell add to the
signals, and a recorder adds to its snapshots.  So the end of a frame changes
nothing but the machine, the two counters, the recorders and the signals, and
`frameEnded_eq` says to what.
-/

namespace SuperChip

theorem Engine.onMachine_of_eq {ρ : Type} {e : Engine ρ} {change : Machine → Machine}
    (h : change e.machine = e.machine) : e.onMachine change = e := by
  rw [onMachine, h]

/-- The signals of a beep listener that is called at a count of frames. -/
def BeepListener.heard : BeepListener → Nat → List Signal
  | .none, _ => []
  | .host, count => [.beep count]
  | .bell audible, _ => if audible then [.bell] else []

/-- The signals of a frame listener that is called at a count of frames. -/
def FrameListener.heard : FrameListener → Nat → List Signal
  | .host, count => [.frame count]
  | _, _ => []

/-- Whether a signal is one of a beep listener. -/
def Signal.isBeep : Signal → Bool
  | frame _ => false
  | beep _ => true
  | bell => true

theorem BeepListener.filter_heard (listener : BeepListener) (count : Nat) :
    (listener.heard count).filter Signal.isBeep = listener.heard count := by
  cases listener with
  | none => rfl
  | host => rfl
  | bell audible => cases audible <;> rfl

theorem BeepListener.filter_not_heard (listener : BeepListener) (count : Nat) :
    (listener.heard count).filter (fun signal => !signal.isBeep) = [] := by
  cases listener with
  | none => rfl
  | host => rfl
  | bell audible => cases audible <;> rfl

theorem FrameListener.filter_heard (listener : FrameListener) (count : Nat) :
    (listener.heard count).filter Signal.isBeep = [] := by
  cases listener <;> rfl

theorem FrameListener.filter_not_heard (listener : FrameListener) (count : Nat) :
    (listener.heard count).filter (fun signal => !signal.isBeep) = listener.heard count := by
  cases listener <;> rfl

namespace Console

variable {ρ : Type}

/-- The recorders after the frame listener has heard of a changed picture. -/
def recordersHearing (c : Console ρ) : Array Recorder :=
  match c.frameListener with
  | .recorder id => c.recorders.modify id fun r => r.record c.machine.framePixels
  | _ => c.recorders

private theorem announceBeep_eq (c : Console ρ) :
    c.announceBeep =
      { c with signals := c.signals ++ (c.beepListener.heard c.frames).toArray } := by
  unfold announceBeep
  cases hlistener : c.beepListener with
  | none => simp [BeepListener.heard, ← hlistener]
  | host => simp [BeepListener.heard, ← hlistener]
  | bell audible =>
      cases audible with
      | true => simp [BeepListener.heard, ← hlistener]
      | false => simp [BeepListener.heard, ← hlistener]

private theorem drainBeep_eq (c : Console ρ) :
    c.drainBeep = { c with
      engine := c.engine.onMachine Machine.takeBeep
      signals := c.signals ++
        (if c.machine.beep then c.beepListener.heard c.frames else []).toArray
      beeps := if c.machine.beep then c.beeps + 1 else c.beeps } := by
  unfold drainBeep
  cases hbeep : c.machine.beep with
  | true =>
      simp only [if_true, announceBeep_eq]
      rfl
  | false =>
      rw [Engine.onMachine_of_eq (Machine.takeBeep_of_not_beep hbeep)]
      simp

private theorem announceFrame_eq (c : Console ρ) :
    c.announceFrame = { c with
      signals := c.signals ++ (c.frameListener.heard c.frames).toArray
      recorders := c.recordersHearing } := by
  unfold announceFrame recordersHearing
  cases hlistener : c.frameListener with
  | none => simp [FrameListener.heard, ← hlistener]
  | host => simp [FrameListener.heard, ← hlistener]
  | recorder id => simp [FrameListener.heard, recordFrame, ← hlistener]

private theorem drainRedraw_eq (c : Console ρ) :
    c.drainRedraw = { c with
      engine := c.engine.onMachine Machine.takeRedraw
      signals := c.signals ++
        (if c.machine.redraw then c.frameListener.heard c.frames else []).toArray
      recorders := if c.machine.redraw then c.recordersHearing else c.recorders } := by
  unfold drainRedraw
  cases hredraw : c.machine.redraw with
  | true =>
      simp only [if_true, announceFrame_eq]
      rfl
  | false =>
      rw [Engine.onMachine_of_eq (Machine.takeRedraw_of_not_redraw hredraw)]
      simp

/-- What the listeners hear of the end of a frame, the beep before the picture. -/
def heardAtEnd (c : Console ρ) : List Signal :=
  (if c.machine.tick.beep then c.beepListener.heard (c.frames + 1) else []) ++
    (if c.machine.redraw then c.frameListener.heard (c.frames + 1) else [])

/-- Of the end of a frame, only a beep is heard as a beep. -/
theorem filter_heardAtEnd (c : Console ρ) :
    c.heardAtEnd.filter Signal.isBeep =
      if c.machine.tick.beep then c.beepListener.heard (c.frames + 1) else [] := by
  have hframe : (if c.machine.redraw then c.frameListener.heard (c.frames + 1)
      else []).filter Signal.isBeep = [] := by
    split
    · exact c.frameListener.filter_heard _
    · rfl
  rw [heardAtEnd, List.filter_append, hframe, List.append_nil]
  split
  · exact c.beepListener.filter_heard _
  · rfl

/-- All else that is heard of the end of a frame is the changed picture. -/
theorem filter_not_heardAtEnd (c : Console ρ) :
    c.heardAtEnd.filter (fun signal => !signal.isBeep) =
      if c.machine.redraw then c.frameListener.heard (c.frames + 1) else [] := by
  have hbeep : (if c.machine.tick.beep then c.beepListener.heard (c.frames + 1)
      else []).filter (fun signal => !signal.isBeep) = [] := by
    split
    · exact c.beepListener.filter_not_heard _
    · rfl
  rw [heardAtEnd, List.filter_append, hbeep, List.nil_append]
  split
  · exact c.frameListener.filter_not_heard _
  · rfl

/-- At the end of a frame the timers tick and the signals are taken, and nothing
else happens to the machine; the frame and its beep are counted. -/
theorem frameEnded_eq (c : Console ρ) :
    c.frameEnded = (c.machine.redraw, { c with
      engine := c.engine.onMachine fun m => m.tick.takeBeep.takeRedraw
      frames := c.frames + 1
      beeps := if c.machine.tick.beep then c.beeps + 1 else c.beeps
      recorders := if c.machine.redraw then c.recordersHearing else c.recorders
      signals := c.signals ++ c.heardAtEnd.toArray }) := by
  have hsignals : c.signals ++ c.heardAtEnd.toArray =
      c.signals ++ (if c.machine.tick.beep then c.beepListener.heard (c.frames + 1)
        else []).toArray ++
      (if c.machine.redraw then c.frameListener.heard (c.frames + 1) else []).toArray := by
    rw [heardAtEnd, ← List.append_toArray, Array.append_assoc]
  rw [hsignals, frameEnded, drainRedraw_eq, drainBeep_eq]
  rfl

end Console

end SuperChip
