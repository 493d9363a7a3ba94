import SuperChip.Proofs.Accounting
import SuperChip.Proofs.Redraw
import SuperChip.Proofs.StepTrace

/-!
# Machines at rest

A machine that waits for a key and finds none pressed makes steps and comes no further,
and neither does one whose program counter has run past the end of memory.  Time goes on
for both: the keys that the host holds are shown to them, the timers run down at the ends
of frames, and the signals that are left are taken away, each once.

## Strategy

`rested` is the console that has been at rest for some steps and some ends of frames, and
`Rests` adds what is reported and heard meanwhile.  Rest goes on from where it has come to
(`rested_rested`, `Rests.append`).  So what one move makes of a console (`rests_after`)
gives whole histories by induction along the path (`rests_of_path`), and what one frame
makes of it gives runs by induction on their frames (`runFrom_idles`).
-/

namespace SuperChip

/-! ## Time goes on -/

namespace Machine

/-- The machine at rest when some frames have ended, with the keys that it is shown. -/
def rested (m : Machine) (frames : Nat) (keys : Vector UInt8 16) : Machine :=
  { m with
    keys := keys
    delay := m.delay - min (frames : Int) m.delay
    sound := m.sound - min (frames : Int) m.sound
    redraw := m.redraw && frames == 0 }

/-- The sound timer of a machine at rest runs out before so many frames have ended. -/
def BeepsWithin (m : Machine) (frames : Nat) : Prop := 1 ≤ m.sound ∧ m.sound ≤ frames

instance (m : Machine) (frames : Nat) : Decidable (m.BeepsWithin frames) :=
  inferInstanceAs (Decidable (_ ∧ _))

theorem WellFormed.rested_zero {m : Machine} (hm : m.WellFormed) (keys : Vector UInt8 16) :
    m.rested 0 keys = { m with keys := keys } := by
  have hlow : ∀ timer : Int, 0 ≤ timer → timer - min ((0 : Nat) : Int) timer = timer := by
    intro timer htimer
    omega
  simp only [rested, hlow _ hm.delay_range.1, hlow _ hm.sound_range.1, beq_self_eq_true,
    Bool.and_true]

/-- The end of a frame takes no more from a machine than the time. -/
theorem WellFormed.rested_one {m : Machine} (hm : m.WellFormed) (hbeep : m.beep = false) :
    m.rested 1 m.keys = m.tick.takeBeep.takeRedraw := by
  have hlow : ∀ timer : Int, 0 ≤ timer →
      timer - min ((1 : Nat) : Int) timer = if 0 < timer then timer - 1 else timer := by
    intro timer htimer
    split <;> omega
  have htaken : (m.redraw && 1 == 0) = false := Bool.and_false _
  simp only [rested, hlow _ hm.delay_range.1, hlow _ hm.sound_range.1, htaken, hbeep]
  rfl

theorem WellFormed.rested_rested {m : Machine} (hm : m.WellFormed) (frames frames' : Nat)
    (keys keys' : Vector UInt8 16) :
    (m.rested frames keys).rested frames' keys' = m.rested (frames + frames') keys' := by
  have hlow : ∀ timer : Int, 0 ≤ timer →
      timer - min (frames : Int) timer - min (frames' : Int) (timer - min (frames : Int) timer) =
        timer - min ((frames + frames' : Nat) : Int) timer := by
    intro timer htimer
    omega
  have hredraw : (m.redraw && frames == 0 && frames' == 0) =
      (m.redraw && frames + frames' == 0) := by
    cases frames <;> cases frames' <;> simp
  simp only [rested, hlow _ hm.delay_range.1, hlow _ hm.sound_range.1, hredraw]

theorem not_beepsWithin_zero (m : Machine) : ¬ m.BeepsWithin 0 := by
  rintro ⟨hlow, hhigh⟩
  omega

/-- A sound timer runs out once. -/
theorem BeepsWithin.not_later {m : Machine} {frames : Nat} (h : m.BeepsWithin frames)
    (frames' : Nat) (keys : Vector UInt8 16) :
    ¬ (m.rested frames keys).BeepsWithin frames' := by
  obtain ⟨hlow, hhigh⟩ := h
  rintro ⟨hleft, -⟩
  simp only [rested] at hleft
  omega

theorem WellFormed.beepsWithin_add {m : Machine} (hm : m.WellFormed) {frames : Nat}
    (hfirst : ¬ m.BeepsWithin frames) (frames' : Nat) (keys : Vector UInt8 16) :
    (m.rested frames keys).BeepsWithin frames' ↔ m.BeepsWithin (frames + frames') := by
  have hsound := hm.sound_range.1
  simp only [BeepsWithin, rested] at hfirst ⊢
  omega

theorem BeepsWithin.mono {m : Machine} {frames : Nat} (h : m.BeepsWithin frames)
    (frames' : Nat) : m.BeepsWithin (frames + frames') :=
  ⟨h.1, by have := h.2; omega⟩

end Machine

namespace Console

variable {ρ : Type} {c d e : Console ρ}

/-! ## Consoles at rest -/

/-- The machine waits for a key or is past the end of memory. -/
def Halted (c : Console ρ) : Prop := c.machine.waiting = true ∨ c.Parked

/-- What is reported of some steps of a machine that is halted. -/
def overrunReports (c : Console ρ) (steps : Nat) : List Report :=
  if !c.machine.waiting && (c.engine.strict && c.engine.listening) then
    List.replicate steps ⟨.pcOverrun, c.machine.pc, 0⟩
  else []

/-! ### What is owed to the listeners -/

/-- The beeps that a console at rest has counted when some frames have ended. -/
def restedBeeps (c : Console ρ) (frames : Nat) : Nat :=
  if c.machine.BeepsWithin frames then c.beeps + 1 else c.beeps

/-- What the listener hears of the beep that a console at rest has in its sound timer. -/
def beepOwed (c : Console ρ) (frames : Nat) : List Signal :=
  if c.machine.BeepsWithin frames then c.beepListener.heard (c.frames + c.machine.sound.toNat)
  else []

/-- What the listener hears of the picture of a console at rest. -/
def frameOwed (c : Console ρ) (frames : Nat) : List Signal :=
  if c.machine.redraw && frames != 0 then c.frameListener.heard (c.frames + 1) else []

/-- The recorders of a console at rest when some frames have ended. -/
def restedRecorders (c : Console ρ) (frames : Nat) : Array Recorder :=
  if c.machine.redraw && frames != 0 then c.recordersHearing else c.recorders

/-- A console that has been at rest for some steps and ends of frames.  The keypad, what is
shown of it and the logs of the listeners are those of another console. -/
def rested (c : Console ρ) (steps frames : Nat) (d : Console ρ) : Console ρ :=
  { c with
    engine := { c.engine with
      machine := c.machine.rested frames d.machine.keys, reports := d.engine.reports }
    keypad := d.keypad
    frames := c.frames + frames
    steps := c.steps + steps
    beeps := c.restedBeeps frames
    recorders := c.restedRecorders frames
    signals := d.signals }

theorem beepOwed_zero (c : Console ρ) : c.beepOwed 0 = [] :=
  if_neg c.machine.not_beepsWithin_zero

theorem frameOwed_zero (c : Console ρ) : c.frameOwed 0 = [] := by
  rw [frameOwed, bne_self_eq_false, Bool.and_false, if_neg Bool.false_ne_true]

section Rested

variable (hc : c.Ready) (d e : Console ρ) (steps frames steps' frames' : Nat)

theorem redraw_rested : (c.rested steps (frames + 1) d).machine.redraw = false :=
  Bool.and_false _

theorem restedRecorders_add :
    (c.rested steps frames d).restedRecorders frames' = c.restedRecorders (frames + frames') := by
  cases frames with
  | zero =>
      rw [Nat.zero_add]
      simp [restedRecorders, recordersHearing, rested, machine, Machine.rested, Machine.framePixels,
        Machine.pictureRows]
  | succ frames =>
      have hended : (frames + 1 + frames' != 0) = (frames + 1 != 0) := by simp
      rw [restedRecorders, redraw_rested, restedRecorders, hended]
      rfl

theorem frameOwed_add :
    c.frameOwed frames ++ (c.rested steps frames d).frameOwed frames' =
      c.frameOwed (frames + frames') := by
  cases frames with
  | zero =>
      rw [Nat.zero_add]
      simp [frameOwed, rested, machine, Machine.rested]
  | succ frames =>
      have hended : (frames + 1 + frames' != 0) = (frames + 1 != 0) := by simp
      rw [frameOwed, frameOwed, redraw_rested, frameOwed, hended]
      exact List.append_nil _

include hc

theorem restedBeeps_add :
    (c.rested steps frames d).restedBeeps frames' = c.restedBeeps (frames + frames') := by
  have hmachine : (c.rested steps frames d).machine =
      c.machine.rested frames d.machine.keys := rfl
  have hbeeps : (c.rested steps frames d).beeps = c.restedBeeps frames := rfl
  rw [restedBeeps, hmachine, hbeeps]
  by_cases hfirst : c.machine.BeepsWithin frames
  · rw [if_neg (hfirst.not_later frames' _), restedBeeps, restedBeeps, if_pos hfirst,
      if_pos (hfirst.mono frames')]
  · simp only [restedBeeps, if_neg hfirst, hc.wellFormed.beepsWithin_add hfirst]

theorem beepOwed_add :
    c.beepOwed frames ++ (c.rested steps frames d).beepOwed frames' =
      c.beepOwed (frames + frames') := by
  have hmachine : (c.rested steps frames d).machine =
      c.machine.rested frames d.machine.keys := rfl
  rw [beepOwed, beepOwed, beepOwed, hmachine]
  by_cases hfirst : c.machine.BeepsWithin frames
  · rw [if_pos hfirst, if_neg (hfirst.not_later frames' _), if_pos (hfirst.mono frames'),
      List.append_nil]
  · -- the frame at whose end the timer runs out is the same, counted from later on
    simp only [if_neg hfirst, List.nil_append, hc.wellFormed.beepsWithin_add hfirst]
    by_cases hlater : c.machine.BeepsWithin (frames + frames')
    · have hend : (c.rested steps frames d).frames +
          (c.machine.rested frames d.machine.keys).sound.toNat =
            c.frames + c.machine.sound.toNat := by
        have hlow := hlater.1
        have hbelow : ¬ c.machine.sound ≤ frames := fun hle => hfirst ⟨hlow, hle⟩
        simp only [rested, Machine.rested]
        omega
      rw [if_pos hlater, if_pos hlater, hend]
      rfl
    · rw [if_neg hlater, if_neg hlater]

theorem rested_rested :
    (c.rested steps frames d).rested steps' frames' e =
      c.rested (steps + steps') (frames + frames') e := by
  have hrested := hc.wellFormed.rested_rested frames frames' d.machine.keys e.machine.keys
  have hbeeps := restedBeeps_add hc d steps frames frames'
  have hrecorders := restedRecorders_add (c := c) d steps frames frames'
  rw [rested, hrecorders, hbeeps]
  simp only [rested, machine] at hrested ⊢
  rw [hrested]
  simp only [Nat.add_assoc]

theorem rested_zero :
    c.rested steps 0 d = { c with
      engine := { c.engine with
        machine := { c.machine with keys := d.machine.keys }, reports := d.engine.reports }
      keypad := d.keypad, steps := c.steps + steps, signals := d.signals } := by
  simp only [rested, hc.wellFormed.rested_zero, restedBeeps,
    if_neg c.machine.not_beepsWithin_zero, restedRecorders, Nat.add_zero, bne_self_eq_false,
    Bool.and_false, Bool.false_eq_true, if_false]

end Rested

/-- What some steps and ends of frames make of a console at rest. -/
structure Rests (c : Console ρ) (steps frames : Nat) (d : Console ρ) : Prop where
  console : d = c.rested steps frames d
  reports : d.engine.reports.toList = c.engine.reports.toList ++ c.overrunReports steps
  signals : ∃ heard, d.signals.toList = c.signals.toList ++ heard ∧
    heard.filter Signal.isBeep = c.beepOwed frames ∧
    heard.filter (fun signal => !signal.isBeep) = c.frameOwed frames

namespace Rests

variable {steps frames steps' frames' : Nat}

theorem machine (h : Rests c steps frames d) :
    d.machine = c.machine.rested frames d.machine.keys := by
  rw [h.console]
  rfl

theorem halted (h : Rests c steps frames d) (hhalted : c.Halted) : d.Halted := by
  rw [Halted, Parked, h.machine]
  exact hhalted

theorem append (hc : c.Ready) (hfirst : Rests c steps frames d)
    (hsecond : Rests d steps' frames' e) : Rests c (steps + steps') (frames + frames') e where
  console := by
    calc e = d.rested steps' frames' e := hsecond.console
      _ = (c.rested steps frames d).rested steps' frames' e :=
          congrArg (fun before => before.rested steps' frames' e) hfirst.console
      _ = c.rested (steps + steps') (frames + frames') e := rested_rested hc ..
  reports := by
    have hsame : d.overrunReports steps' = c.overrunReports steps' := by
      rw [hfirst.console]
      rfl
    have hreports : c.overrunReports (steps + steps') =
        c.overrunReports steps ++ c.overrunReports steps' := by
      simp only [overrunReports]
      split
      · exact List.replicate_add ..
      · rfl
    rw [hsecond.reports, hfirst.reports, hsame, hreports, List.append_assoc]
  signals := by
    obtain ⟨heard, hheard, hbeeps, hframes⟩ := hfirst.signals
    obtain ⟨heard', hheard', hbeeps', hframes'⟩ := hsecond.signals
    have hbeepOwed : d.beepOwed frames' = (c.rested steps frames d).beepOwed frames' :=
      congrArg (fun before => before.beepOwed frames') hfirst.console
    have hframeOwed : d.frameOwed frames' = (c.rested steps frames d).frameOwed frames' :=
      congrArg (fun before => before.frameOwed frames') hfirst.console
    refine ⟨heard ++ heard', ?_, ?_, ?_⟩
    · rw [hheard', hheard, List.append_assoc]
    · rw [List.filter_append, hbeeps, hbeeps', hbeepOwed, beepOwed_add hc]
    · rw [List.filter_append, hframes, hframes', hframeOwed, frameOwed_add]

/-- As long as no frame ends, nobody hears anything. -/
theorem signals_of_no_end (h : Rests c steps 0 d) : d.signals = c.signals := by
  obtain ⟨heard, hheard, hbeeps, hframes⟩ := h.signals
  rw [beepOwed_zero, List.filter_eq_nil_iff] at hbeeps
  rw [frameOwed_zero, List.filter_eq_nil_iff] at hframes
  have hnone : heard = [] := by
    cases heard with
    | nil => rfl
    | cons signal rest =>
        have hbeep := hbeeps signal List.mem_cons_self
        have hframe := hframes signal List.mem_cons_self
        simp [hbeep] at hframe
  rw [hnone, List.append_nil] at hheard
  exact Array.toList_inj.mp hheard

theorem eq_of_no_end (hc : c.Ready) (h : Rests c steps 0 d) :
    d = { c with
      engine := { c.engine with
        machine := { c.machine with keys := d.machine.keys }, reports := d.engine.reports }
      keypad := d.keypad, steps := c.steps + steps } := by
  calc d = c.rested steps 0 d := h.console
    _ = { c with
        engine := { c.engine with
          machine := { c.machine with keys := d.machine.keys }, reports := d.engine.reports }
        keypad := d.keypad, steps := c.steps + steps, signals := d.signals } := rested_zero hc ..
    _ = _ := by rw [h.signals_of_no_end]

end Rests

/-! ## Moves that are no steps -/

theorem rests_keyed (hc : c.Ready) (keypad : Vector Bool 16) :
    Rests c 0 0 { c with keypad := keypad } where
  console := by
    rw [rested_zero hc]
    rfl
  reports := by simp [overrunReports]
  signals := ⟨[], by simp, c.beepOwed_zero.symm, c.frameOwed_zero.symm⟩

theorem rests_frameEnded (hc : c.Ready) : Rests c 0 1 c.frameEnded.2 := by
  have hmachine : c.engine.machine.tick.takeBeep.takeRedraw =
      c.engine.machine.rested 1 c.engine.machine.keys := (hc.wellFormed.rested_one hc.silent).symm
  -- the timer runs out at this end of a frame if it stands at one
  have hsounds : c.machine.tick.beep = true ↔ c.machine.BeepsWithin 1 := by
    rw [hc.beep_tick, Machine.BeepsWithin]
    omega
  have hbeeps : (if c.machine.tick.beep = true then c.beeps + 1 else c.beeps) = c.restedBeeps 1 :=
    if_congr hsounds rfl rfl
  have hrecorders : (if c.machine.redraw then c.recordersHearing else c.recorders) =
      c.restedRecorders 1 := by
    simp [restedRecorders]
  rw [frameEnded_eq, hbeeps, hrecorders]
  refine ⟨?_, ?_, c.heardAtEnd, ?_, ?_, ?_⟩
  · simp only [rested, Engine.onMachine, machine, hmachine]
    rfl
  · simp [overrunReports, Engine.onMachine]
  · simp
  · rw [filter_heardAtEnd, beepOwed]
    by_cases hsounding : c.machine.BeepsWithin 1
    · have hone : c.machine.sound.toNat = 1 := by
        have hlow := hsounding.1
        have hhigh := hsounding.2
        omega
      rw [if_pos (hsounds.mpr hsounding), if_pos hsounding, hone]
    · rw [if_neg (mt hsounds.mp hsounding), if_neg hsounding]
  · rw [filter_not_heardAtEnd, frameOwed]
    simp

/-! ## A host that leaves the keypad alone -/

/-- The machine makes no progress, whatever steps the host lets it make. -/
def AtRest (c : Console ρ) : Prop :=
  (c.machine.waiting = true ∧ c.keypad = releasedKeypad) ∨ c.Parked

/-- A console at rest whose host leaves the keypad alone, and shows it to the machine. -/
structure Idles (c : Console ρ) (steps frames : Nat) (d : Console ρ) : Prop
    extends Rests c steps frames d where
  keypad : d.keypad = c.keypad
  keys : d.machine.keys = keyBytes c.keypad

namespace Idles

variable {steps frames steps' frames' : Nat}

theorem append (hc : c.Ready) (hfirst : Idles c steps frames d)
    (hsecond : Idles d steps' frames' e) : Idles c (steps + steps') (frames + frames') e where
  toRests := hfirst.toRests.append hc hsecond.toRests
  keypad := hsecond.keypad.trans hfirst.keypad
  keys := by rw [hsecond.keys, hfirst.keypad]

theorem atRest (h : Idles c steps frames d) (hrest : c.AtRest) : d.AtRest := by
  rw [AtRest, Parked, h.machine, h.keypad]
  exact hrest

theorem ready (h : Idles c steps frames d) (hc : c.Ready) : d.Ready := by
  have hlow : ∀ timer : Int, 0 ≤ timer ∧ timer ≤ 255 →
      0 ≤ timer - min (frames : Int) timer ∧ timer - min (frames : Int) timer ≤ 255 := by
    intro timer htimer
    omega
  have hmachine := h.machine
  refine ⟨?_, ?_, ?_⟩
  · rw [h.console]
    exact hc.loaded
  · rw [hmachine]
    exact { hc.wellFormed with
      delay_range := hlow _ hc.wellFormed.delay_range
      sound_range := hlow _ hc.wellFormed.sound_range }
  · rw [hmachine]
    exact hc.silent

theorem redraw (h : Idles c steps frames d) :
    d.machine.redraw = (c.machine.redraw && frames == 0) := by
  rw [h.machine]
  rfl

theorem stepsPerFrame (h : Idles c steps frames d) : d.stepsPerFrame = c.stepsPerFrame := by
  rw [h.console]
  rfl

end Idles

/-! ## The keypad -/

theorem get_keyBytes (keypad : Vector Bool 16) (key : Fin 16) :
    (keyBytes keypad).get key = if keypad.get key then 1 else 0 :=
  Vector.getElem_map _ key.isLt

theorem keyBytes_ne_zero {keypad : Vector Bool 16} {key : Fin 16} :
    ((keyBytes keypad).get key != 0) = keypad.get key := by
  rw [get_keyBytes]
  cases keypad.get key <;> rfl

theorem get_releasedKeypad (key : Fin 16) : releasedKeypad.get key = false :=
  Vector.getElem_replicate key.isLt

/-- The first key of a keypad that is held down. -/
structure FirstHeld (keypad : Vector Bool 16) (key : Fin 16) : Prop where
  held : keypad.get key = true
  before : ∀ other, other < key → keypad.get other = false

variable {keypad : Vector Bool 16} {m : Machine}

theorem pressedKey?_of_released (hkeys : m.keys = keyBytes releasedKeypad) :
    m.pressedKey? = none := by
  rw [Machine.pressedKey?, List.find?_eq_none, hkeys]
  intro key _
  rw [keyBytes_ne_zero, get_releasedKeypad]
  exact Bool.false_ne_true

theorem exists_firstHeld (hkeys : m.keys = keyBytes keypad)
    (hheld : ∃ key, keypad.get key = true) :
    ∃ key, m.pressedKey? = some key ∧ FirstHeld keypad key := by
  cases hpressed : m.pressedKey? with
  -- the machine sees the keypad, so a key that is held is one that is pressed
  | none =>
      obtain ⟨key, hkey⟩ := hheld
      rw [Machine.pressedKey?, List.find?_eq_none, hkeys] at hpressed
      have hup := hpressed key (List.mem_finRange key)
      rw [keyBytes_ne_zero] at hup
      exact absurd hkey hup
  | some key =>
      rw [Machine.pressedKey?, List.find?_eq_some_iff_getElem, hkeys] at hpressed
      obtain ⟨hkey, place, hplace, hat, hbefore⟩ := hpressed
      refine ⟨key, rfl, ?_, ?_⟩
      · rwa [keyBytes_ne_zero] at hkey
      · intro other hother
        rw [List.getElem_finRange] at hat
        have hlt : other.val < place := by
          rw [← hat] at hother
          exact hother
        have hup := hbefore other.val hlt
        rw [List.getElem_finRange, keyBytes_ne_zero] at hup
        simpa using hup

end Console

/-- The moves that a host makes within a frame: steps and changes of the keypad. -/
def Move.WithinFrame (move : Move) : Prop :=
  move = .step ∨ move = .releaseKeys ∨ ∃ key pressed, move = .holdKey key pressed

variable {ρ : Type}

theorem frameEnds_of_withinFrame {path : List (Moment ρ)}
    (h : ∀ moment ∈ path, moment.move.WithinFrame) : frameEnds path = [] := by
  refine List.filter_eq_nil_iff.mpr fun moment hmoment => ?_
  rcases h moment hmoment with hmove | hmove | ⟨key, pressed, hmove⟩ <;> simp [hmove]

variable [Generator ρ]

/-! ## Steps -/

namespace Engine

variable {e : Engine ρ}

theorem step_of_await (h : e.machine.next = .await) :
    step e = .ok () { e with machine := e.machine.resolveWait } := by
  simp only [step, Machine.step_of_await _ _ h, hear]

theorem step_of_overrun (h : e.machine.next = .overrun) :
    step e = .ok () { e with reports := e.hear (some ⟨.pcOverrun, e.machine.pc, 0⟩) } := by
  simp only [step, Machine.step_of_overrun _ _ h]

end Engine

namespace Console

variable {c d e : Console ρ}

/-- A step of a machine that waits and finds no key pressed. -/
theorem step_of_waiting (hloaded : c.loaded = true) (hwaiting : c.machine.waiting = true)
    (hkeypad : c.keypad = releasedKeypad) :
    step c = .ok () { c.showKeypad with steps := c.steps + 1 } := by
  have hnext : c.showKeypad.engine.machine.next = .await := Machine.next_of_waiting hwaiting
  have hkeys : c.showKeypad.engine.machine.keys = keyBytes releasedKeypad := by
    rw [← hkeypad]
    rfl
  have hsame : c.showKeypad.engine.machine.resolveWait = c.showKeypad.engine.machine := by
    rw [Machine.resolveWait, pressedKey?_of_released hkeys]
  rw [step_ok hloaded (Engine.step_of_await hnext), hsame]
  rfl

/-- A step of a machine that waits and finds a key pressed. -/
theorem step_of_held (hloaded : c.loaded = true) (hwaiting : c.machine.waiting = true)
    (hheld : ∃ key, c.keypad.get key = true) :
    ∃ key, FirstHeld c.keypad key ∧ step c = .ok () { c with
      engine := c.engine.onMachine fun m => { m with
        keys := keyBytes c.keypad
        v := Slots.put m.v m.awaitedRegister (UInt8.ofNat key.val)
        waiting := false }
      steps := c.steps + 1 } := by
  have hnext : c.showKeypad.engine.machine.next = .await := Machine.next_of_waiting hwaiting
  obtain ⟨key, hpressed, hfirst⟩ :=
    exists_firstHeld (m := c.showKeypad.engine.machine) rfl hheld
  refine ⟨key, hfirst, ?_⟩
  rw [step_ok hloaded (Engine.step_of_await hnext), Machine.resolveWait, hpressed]
  rfl

theorem Parked.step_eq (h : c.Parked) (hloaded : c.loaded = true) :
    step c = .ok () { c with
      engine := { c.showKeypad.engine with
        reports := c.engine.hear (some ⟨.pcOverrun, c.machine.pc, 0⟩) }
      steps := c.steps + 1 } := by
  have hnext : c.showKeypad.engine.machine.next = .overrun := Parked.next h
  exact step_ok hloaded (Engine.step_of_overrun hnext)

theorem exists_step_idles (hc : c.Ready) (h : c.AtRest) :
    ∃ d, step c = .ok () d ∧ Idles c 1 0 d := by
  rcases h with ⟨hwaiting, hkeypad⟩ | hparked
  · refine ⟨_, step_of_waiting hc.loaded hwaiting hkeypad, ?_, rfl, rfl⟩
    refine ⟨?_, ?_, [], ?_, c.beepOwed_zero.symm, c.frameOwed_zero.symm⟩
    · rw [rested_zero hc]
      rfl
    · simp [overrunReports, hwaiting, showKeypad, Engine.onMachine]
    · simp [showKeypad]
  · refine ⟨_, hparked.step_eq hc.loaded, ?_, rfl, rfl⟩
    refine ⟨?_, ?_, [], ?_, c.beepOwed_zero.symm, c.frameOwed_zero.symm⟩
    · rw [rested_zero hc]
      rfl
    · simp only [overrunReports, hparked.1, Engine.hear]
      cases c.engine.strict && c.engine.listening <;> simp
    · simp

/-! ## Histories of a console at rest -/

/-- What a move other than loading makes of a console whose machine is halted, where a step
of a machine that waits finds no key pressed. -/
theorem rests_after (hc : c.Ready) (hhalted : c.Halted) {move : Move}
    (hmove : ∀ program, move ≠ .load program)
    (hkeys : move = .step → c.machine.waiting = true → c.keypad = releasedKeypad) :
    Rests c (stepsAmong [⟨c, move⟩]).length (frameEnds [(⟨c, move⟩ : Moment ρ)]).length
        (move.after c) ∧
      (move = .step → step c = .ok () (move.after c) ∧
        (move.after c).machine.keys = keyBytes c.keypad) := by
  cases move with
  | load program => exact absurd rfl (hmove program)
  | holdKey key pressed =>
      obtain ⟨keypad, hkeypad⟩ := Move.after_holdKey c key pressed
      rw [hkeypad]
      exact ⟨rests_keyed hc keypad, by simp⟩
  | releaseKeys => exact ⟨rests_keyed hc releasedKeypad, by simp⟩
  | closeFrame => exact ⟨rests_frameEnded hc, by simp⟩
  | step =>
      have hrest : c.AtRest := hhalted.imp (fun hwaiting => ⟨hwaiting, hkeys rfl hwaiting⟩) id
      obtain ⟨d, hstep, hidles⟩ := exists_step_idles hc hrest
      have hafter : Move.step.after c = d := Attempt.after_eq_of_ok hstep
      rw [hafter]
      exact ⟨hidles.toRests, fun _ => ⟨hstep, hidles.keys⟩⟩

/-- A machine that is halted stays so, as long as no step of a machine that waits finds a
key pressed. -/
theorem rests_of_path {path : List (Moment ρ)} (h : Path c path d) (hc : c.Ready)
    (hhalted : c.Halted) (hmoves : ∀ moment ∈ path, ∀ program, moment.move ≠ .load program)
    (hkeys : c.machine.waiting = true → ∀ moment ∈ path, moment.move = .step →
      moment.before.keypad = releasedKeypad) :
    Rests c (stepsAmong path).length (frameEnds path).length d ∧
      ∀ moment ∈ path, moment.move = .step → step moment.before = .ok () moment.after ∧
        moment.after.machine.keys = keyBytes moment.before.keypad := by
  induction h with
  | nil c => exact ⟨rests_keyed hc c.keypad, by simp⟩
  | @cons c d move rest hrest ih =>
      have hmove := hmoves _ List.mem_cons_self
      obtain ⟨hfirst, hstep⟩ := rests_after hc hhalted hmove
        fun hstep hwaiting => hkeys hwaiting _ List.mem_cons_self hstep
      -- the machine waits as before, so the keys behind the first move are free as well
      have hlaterKeys : (move.after c).machine.waiting = true → ∀ moment ∈ rest,
          moment.move = .step → moment.before.keypad = releasedKeypad := by
        intro hwaiting moment hmem
        rw [hfirst.machine] at hwaiting
        exact hkeys hwaiting moment (List.mem_cons_of_mem _ hmem)
      obtain ⟨hlater, hsteps⟩ := ih (hc.of_moved (hc.moved hmove)) (hfirst.halted hhalted)
        (fun moment hmem => hmoves moment (List.mem_cons_of_mem _ hmem)) hlaterKeys
      have hsplit : (⟨c, move⟩ :: rest : List (Moment ρ)) = [⟨c, move⟩] ++ rest := rfl
      constructor
      · rw [hsplit, stepsAmong_append, frameEnds_append, List.length_append, List.length_append]
        exact hfirst.append hc hlater
      · intro moment hmem
        rcases List.mem_cons.mp hmem with rfl | hmem
        · exact hstep
        · exact hsteps moment hmem

/-- Within a frame, a machine that is halted changes nothing but its keys. -/
theorem rests_of_path_withinFrame {path : List (Moment ρ)} (h : Path c path d) (hc : c.Ready)
    (hhalted : c.Halted) (hmoves : ∀ moment ∈ path, moment.move.WithinFrame)
    (hkeys : c.machine.waiting = true → ∀ moment ∈ path, moment.move = .step →
      moment.before.keypad = releasedKeypad) :
    Rests c (stepsAmong path).length 0 d ∧
      ∀ moment ∈ path, moment.move = .step → step moment.before = .ok () moment.after ∧
        moment.after.machine.keys = keyBytes moment.before.keypad := by
  have hloads : ∀ moment ∈ path, ∀ program, moment.move ≠ .load program := by
    intro moment hmoment program
    rcases hmoves moment hmoment with hmove | hmove | ⟨key, pressed, hmove⟩ <;> simp [hmove]
  have hrests := rests_of_path h hc hhalted hloads hkeys
  rwa [frameEnds_of_withinFrame hmoves] at hrests

/-! ## Runs of a console at rest -/

theorem iterate_step (hstep : step c = .ok () d) (count : Nat) :
    Attempt.iterate step (count + 1) c = Attempt.iterate step count d := by
  rw [← Move.performAll_replicate_step, performAll_step hstep, Move.performAll_replicate_step]

theorem iterate_idles (hc : c.Ready) (h : c.AtRest) (count : Nat) :
    ∃ d, Attempt.iterate step (count + 1) c = .ok () d ∧ Idles c (count + 1) 0 d := by
  induction count generalizing c with
  | zero =>
      obtain ⟨d, hstep, hfirst⟩ := exists_step_idles hc h
      refine ⟨d, ?_, hfirst⟩
      simp only [Attempt.iterate, bind, EStateM.bind, hstep]
      rfl
  | succ count ih =>
      obtain ⟨d, hstep, hfirst⟩ := exists_step_idles hc h
      obtain ⟨last, hlast, hidles⟩ := ih (hfirst.ready hc) (hfirst.atRest h)
      have hcount : 1 + (count + 1) = count + 1 + 1 := Nat.add_comm _ _
      refine ⟨last, ?_, ?_⟩
      · rw [iterate_step hstep, hlast]
      · rw [← hcount]
        exact hfirst.append hc hidles

/-- A frame of a console at rest reports the picture that has been changed before. -/
theorem advanceFrame_idles (hc : c.Ready) (h : c.AtRest) :
    ∃ d, advanceFrame c = .ok c.machine.redraw d ∧ Idles c c.stepsPerFrame 1 d := by
  obtain ⟨count, hcount⟩ : ∃ count, c.stepsPerFrame = count + 1 :=
    ⟨c.stepsPerFrame - 1, by have := c.stepsPerFrame_pos; omega⟩
  obtain ⟨d, hsteps, hidles⟩ := iterate_idles hc h count
  -- steps of a machine at rest give no signal of a changed picture
  have hredraw : d.machine.redraw = c.machine.redraw := by
    rw [hidles.redraw, beq_self_eq_true, Bool.and_true]
  have hended : Idles d 0 1 d.frameEnded.2 := by
    refine ⟨rests_frameEnded (hidles.ready hc), ?_, ?_⟩
    · rw [frameEnded_eq]
    · rw [frameEnded_eq, hidles.keypad, ← hidles.keys]
      rfl
  refine ⟨d.frameEnded.2, ?_, ?_⟩
  · rw [advanceFrame_of_loaded hc.loaded, hcount]
    simp only [bind, EStateM.bind, hsteps, closeFrame_eq, hredraw]
  · rw [hcount]
    exact hidles.append hc hended

theorem runFrom_succ {redraw : Bool} (hframe : advanceFrame c = .ok redraw d)
    (redraws frames : Nat) :
    runFrom redraws (frames + 1) c =
      runFrom (if redraw then redraws + 1 else redraws) frames d := by
  simp only [runFrom, bind, EStateM.bind, hframe]

/-- Only the first frame of a run of a console at rest may report a changed picture. -/
theorem runFrom_idles (hc : c.Ready) (h : c.AtRest) (redraws frames : Nat) :
    ∃ d, runFrom redraws (frames + 1) c =
        .ok (if c.machine.redraw then redraws + 1 else redraws) d ∧
      Idles c ((frames + 1) * c.stepsPerFrame) (frames + 1) d := by
  induction frames generalizing c redraws with
  | zero =>
      obtain ⟨d, hframe, hfirst⟩ := advanceFrame_idles hc h
      refine ⟨d, runFrom_succ hframe redraws 0, ?_⟩
      rw [Nat.zero_add, Nat.one_mul]
      exact hfirst
  | succ frames ih =>
      obtain ⟨d, hframe, hfirst⟩ := advanceFrame_idles hc h
      -- the first frame has taken the signal of a changed picture, and none is given again
      have hquiet : d.machine.redraw = false := by
        rw [hfirst.redraw]
        exact Bool.and_false _
      obtain ⟨last, hlast, hidles⟩ := ih (hfirst.ready hc) (hfirst.atRest h)
        (if c.machine.redraw then redraws + 1 else redraws)
      rw [hquiet, if_neg Bool.false_ne_true] at hlast
      have hsteps : c.stepsPerFrame + (frames + 1) * d.stepsPerFrame =
          (frames + 1 + 1) * c.stepsPerFrame := by
        rw [hfirst.stepsPerFrame, Nat.succ_mul (frames + 1), Nat.add_comm]
      have hframes : 1 + (frames + 1) = frames + 1 + 1 := Nat.add_comm _ _
      refine ⟨last, ?_, ?_⟩
      · rw [runFrom_succ hframe, hlast]
      · rw [← hsteps, ← hframes]
        exact hfirst.append hc hidles

end Console

end SuperChip
