import SuperChip.Proofs.Schedule
import SuperChip.Proofs.WellFormed
import SuperChip.Proofs.Words

/-!
# Timers, beeps and counters over whole runs

After a program is loaded, a timer holds what the program stored in it last, less
one for each frame that has ended since, and never less than nothing.  A frame
beeps if it ends while the sound timer holds one, and no other frame does: the
signal of the sound timer is taken away at the end of the same frame, so that no
beep is left for a later one, and none is heard twice.

## Strategy

`Moved` says what each move makes of a console with a program, and `Account` what
the moments between two consoles come to: frames, steps and beeps add up, the
listener hears of each beep in its turn, and a timer in which nothing is stored
runs down.  An account holds of each single move (`Account.single`) and of two
stretches one after the other (`Account.append`), so it holds of a whole history.
A history with a store in it is cut behind the last one.
-/

namespace SuperChip

/-- The two timers of a machine. -/
inductive Timer where
  | delay
  | sound

namespace Timer

/-- What a timer holds. -/
def value : Timer → Machine → Int
  | delay, m => m.delay
  | sound, m => m.sound

/-- The word by which a program stores a register in a timer. -/
def word (timer : Timer) (x : Fin 16) : Nat :=
  match timer with
  | delay => 0xF015 + x.val * 256
  | sound => 0xF018 + x.val * 256

/-- The instruction that stores a register in a timer. -/
def setBy : Timer → Fin 16 → Instruction
  | delay, x => .setDelay x
  | sound, x => .setSound x

theorem word_setBy (timer : Timer) (x : Fin 16) : (timer.setBy x).word = timer.word x := by
  cases timer
  all_goals
    simp only [setBy, Instruction.word, word]
    omega

theorem decode_of_toNat_eq_word {timer : Timer} {op : Opcode} {x : Fin 16}
    (hop : op.toNat = timer.word x) : Instruction.decode op = some (timer.setBy x) := by
  apply Instruction.decode_eq_some_iff.mpr
  refine ⟨hop.trans (timer.word_setBy x).symm, ?_⟩
  cases timer <;> trivial

theorem toNat_eq_word_of_decode {timer : Timer} {op : Opcode} {x : Fin 16}
    (hdecode : Instruction.decode op = some (timer.setBy x)) : op.toNat = timer.word op.x := by
  obtain ⟨hword, -⟩ := Instruction.decode_eq_some_iff.mp hdecode
  have hx : op.x = x := by
    cases timer with
    | delay => exact (Opcode.parts_of_toNat 0xF hword (by decide)).2.1
    | sound => exact (Opcode.parts_of_toNat 0xF hword (by decide)).2.1
  rw [hx, hword, word_setBy]

end Timer

namespace Machine

variable {m after : Machine}

/-- The value that the next step of a machine stores in a timer. -/
def stored? (timer : Timer) (m : Machine) : Option UInt8 :=
  match m.next with
  | .opcode op => if op.toNat = timer.word op.x then some (m.v.get op.x) else none
  | _ => none

theorem Executed.value {instruction : Instruction} (h : Executed m instruction after)
    (timer : Timer) (hother : ∀ x, instruction ≠ timer.setBy x) :
    timer.value after = timer.value m := by
  cases h with
  | delayed x =>
      cases timer with
      | delay => exact absurd rfl (hother x)
      | sound => rfl
  | sounded x =>
      cases timer with
      | delay => rfl
      | sound => exact absurd rfl (hother x)
  | _ => cases timer <;> rfl

theorem Executed.beep {instruction : Instruction} (h : Executed m instruction after) :
    after.beep = m.beep := by
  cases h <;> rfl

theorem Stepped.beep {variant : Variant} (h : Stepped variant m after) : after.beep = m.beep := by
  cases h with
  | awaited =>
      obtain ⟨v, waiting, hresolved⟩ := m.exists_resolveWait_eq
      rw [hresolved]
  | stayed => rfl
  | undefined => rfl
  | executed _ _ number => exact (m.fetched.executed variant number _).beep

theorem exists_opcode_of_stored {timer : Timer} {value : UInt8}
    (hstored : m.stored? timer = some value) :
    ∃ op, m.next = .opcode op ∧ op.toNat = timer.word op.x ∧ m.v.get op.x = value := by
  unfold stored? at hstored
  split at hstored
  · rename_i op hnext
    split at hstored
    · rename_i hop
      exact ⟨op, hnext, hop, Option.some.inj hstored⟩
    · cases hstored
  · cases hstored

theorem Stepped.value {variant : Variant} (h : Stepped variant m after) {timer : Timer}
    (hstored : m.stored? timer = none) : timer.value after = timer.value m := by
  cases h with
  | awaited =>
      obtain ⟨v, waiting, hresolved⟩ := m.exists_resolveWait_eq
      rw [hresolved]
      cases timer <;> rfl
  | stayed => rfl
  | undefined => cases timer <;> rfl
  | executed hnext hdecode number =>
      have hfetched : timer.value m.fetched = timer.value m := by cases timer <;> rfl
      rw [← hfetched]
      refine (m.fetched.executed variant number _).value timer ?_
      -- an instruction that sets the timer makes the step a store
      rintro x rfl
      have hop := Timer.toNat_eq_word_of_decode (Instruction.decode_of_decodeIn hdecode)
      simp [stored?, hnext, hop] at hstored

variable {ρ : Type} [Generator ρ]

/-- A step stores in a timer what the opcode says, and leaves it alone otherwise. -/
theorem value_step (timer : Timer) (m : Machine) (variant : Variant) (random : ρ) :
    timer.value (m.step variant random).1.machine =
      ((m.stored? timer).map fun value => (value.toNat : Int)).getD (timer.value m) := by
  cases hstored : m.stored? timer with
  | none => exact (stepped variant random m).value hstored
  | some value =>
      obtain ⟨op, hnext, hop, rfl⟩ := exists_opcode_of_stored hstored
      have hdecode : Instruction.decodeIn variant op = some (timer.setBy op.x) := by
        rw [Instruction.decodeIn, Timer.decode_of_toNat_eq_word hop]
        cases variant <;> cases timer <;> rfl
      obtain ⟨number, hstep⟩ := exists_step_eq_execute variant random hnext hdecode
      rw [hstep]
      cases timer <;> rfl

end Machine

/-! ## What is counted in a history -/

/-- The value that a moment stores in a timer. -/
def Moment.stored? {ρ : Type} (timer : Timer) (moment : Moment ρ) : Option UInt8 :=
  if moment.move = .step then moment.before.machine.stored? timer else none

/-- The steps among some moments. -/
def stepsAmong {ρ : Type} (moments : List (Moment ρ)) : List (Moment ρ) :=
  moments.filter fun moment => moment.move = .step

/-- The ends of frames that the sound timer reaches with its last tick to go. -/
def beepEnds {ρ : Type} (moments : List (Moment ρ)) : List (Moment ρ) :=
  (frameEnds moments).filter fun moment => moment.before.machine.sound = 1

theorem stepsAmong_append {ρ : Type} (first second : List (Moment ρ)) :
    stepsAmong (first ++ second) = stepsAmong first ++ stepsAmong second :=
  List.filter_append ..

theorem beepEnds_append {ρ : Type} (first second : List (Moment ρ)) :
    beepEnds (first ++ second) = beepEnds first ++ beepEnds second := by
  rw [beepEnds, frameEnds_append, List.filter_append]
  rfl

namespace Console

variable {ρ : Type} [Generator ρ] {c d e : Console ρ}

/-! ## One move -/

/-- A console with a program, as its host finds it between two operations. -/
structure Ready (c : Console ρ) : Prop where
  loaded : c.loaded = true
  wellFormed : c.machine.WellFormed
  silent : c.machine.beep = false

/-- What a move other than loading makes of a console that is ready. -/
inductive Moved (c : Console ρ) : Move → Console ρ → Prop
  | keyed {move : Move} (hstep : move ≠ .step) (hclose : move ≠ .closeFrame)
      (keypad : Vector Bool 16) : Moved c move { c with keypad := keypad }
  | stepped : Moved c .step { c with
      engine := c.showKeypad.engine.after .step, steps := c.steps + 1 }
  | closed : Moved c .closeFrame { c with
      engine := c.engine.onMachine fun m => m.tick.takeBeep.takeRedraw
      frames := c.frames + 1
      beeps := if c.machine.sound = 1 then c.beeps + 1 else c.beeps
      recorders := if c.machine.redraw then c.recordersHearing else c.recorders
      signals := c.signals ++ c.heardAtEnd.toArray }

omit [Generator ρ] in
/-- A console that has just loaded a program is ready, and its timers and counters
stand at zero. -/
theorem ready_of_load {program : List UInt8} (hload : load program c = .ok () d) :
    d.Ready ∧ (∀ timer, Timer.value timer d.machine = 0) ∧
      d.frames = 0 ∧ d.steps = 0 ∧ d.beeps = 0 := by
  have hfits : program.length ≤ programLimit := by
    refine Nat.le_of_not_lt fun hsize => ?_
    rw [load_of_too_large c hsize] at hload
    cases hload
  rw [load_of_fits c hfits] at hload
  cases hload
  refine ⟨⟨rfl, .restarted _ _, rfl⟩, ?_, rfl, rfl, rfl⟩
  intro timer
  cases timer <;> rfl

namespace Ready

variable (hc : c.Ready)

include hc

omit [Generator ρ] in
/-- A machine without a signal beeps in the frame in which the sound timer runs out. -/
theorem beep_tick : c.machine.tick.beep = true ↔ c.machine.sound = 1 := by
  simp [Machine.tick, hc.silent]

omit [Generator ρ] in
theorem showKeypad : c.showKeypad.Ready :=
  ⟨hc.loaded, { hc.wellFormed with }, hc.silent⟩

omit [Generator ρ] in
theorem value_nonneg (timer : Timer) : 0 ≤ timer.value c.machine := by
  cases timer with
  | delay => exact hc.wellFormed.delay_range.1
  | sound => exact hc.wellFormed.sound_range.1

theorem fault?_step : c.showKeypad.engine.fault? .step = none := by
  rw [Engine.fault_eq]
  exact (Machine.step_sound hc.showKeypad.wellFormed _ _).1

theorem moved {move : Move} (hmove : ∀ program, move ≠ .load program) :
    Moved c move (move.after c) := by
  cases move with
  | load program => exact absurd rfl (hmove program)
  | holdKey key pressed =>
      obtain ⟨keypad, hkeypad⟩ := Move.after_holdKey c key pressed
      rw [hkeypad]
      exact .keyed (by simp) (by simp) keypad
  | releaseKeys => exact .keyed (by simp) (by simp) releasedKeypad
  | step =>
      rw [Move.after_step_of_loaded c hc.loaded, hc.fault?_step]
      exact .stepped
  | closeFrame =>
      rw [Move.after_closeFrame, frameEnded_eq]
      simp only [hc.beep_tick]
      exact .closed

theorem of_moved {move : Move} (h : Moved c move d) : d.Ready := by
  cases h with
  | keyed => exact ⟨hc.loaded, hc.wellFormed, hc.silent⟩
  | stepped =>
      refine ⟨hc.loaded, ?_, ?_⟩
      · show (c.showKeypad.engine.after .step).machine.WellFormed
        rw [Engine.after_machine]
        exact hc.showKeypad.wellFormed.outcome _ _ .step
      · show (c.showKeypad.engine.after .step).machine.beep = false
        rw [Engine.after_machine]
        exact (Machine.stepped _ _ _).beep.trans hc.silent
  | closed => exact ⟨hc.loaded, { hc.wellFormed.tick with }, rfl⟩

end Ready

/-! ## Stretches of a history -/

/-- What the moments between two consoles come to. -/
structure Account (c : Console ρ) (moments : List (Moment ρ)) (d : Console ρ) : Prop where
  listener : d.beepListener = c.beepListener
  frames : d.frames = c.frames + (frameEnds moments).length
  steps : d.steps = c.steps + (stepsAmong moments).length
  beeps : d.beeps = c.beeps + (beepEnds moments).length
  signals : ∃ heard, d.signals.toList = c.signals.toList ++ heard ∧
    heard.filter Signal.isBeep =
      (beepEnds moments).flatMap fun moment => c.beepListener.heard moment.after.frames
  timers : ∀ timer, (∀ moment ∈ moments, moment.stored? timer = none) →
    Timer.value timer d.machine =
      max 0 (Timer.value timer c.machine - (frameEnds moments).length)

namespace Account

theorem append {first second : List (Moment ρ)} (hfirst : Account c first d)
    (hsecond : Account d second e) : Account c (first ++ second) e where
  listener := hsecond.listener.trans hfirst.listener
  frames := by
    rw [hsecond.frames, hfirst.frames, frameEnds_append, List.length_append, Nat.add_assoc]
  steps := by
    rw [hsecond.steps, hfirst.steps, stepsAmong_append, List.length_append, Nat.add_assoc]
  beeps := by
    rw [hsecond.beeps, hfirst.beeps, beepEnds_append, List.length_append, Nat.add_assoc]
  signals := by
    obtain ⟨heard, hheard, hbeeps⟩ := hfirst.signals
    obtain ⟨heard', hheard', hbeeps'⟩ := hsecond.signals
    refine ⟨heard ++ heard', ?_, ?_⟩
    · rw [hheard', hheard, List.append_assoc]
    · rw [List.filter_append, hbeeps, hbeeps', beepEnds_append, List.flatMap_append,
        hfirst.listener]
  timers := by
    intro timer hstored
    have hearlier := hfirst.timers timer fun moment h =>
      hstored moment (List.mem_append_left _ h)
    have hlater := hsecond.timers timer fun moment h =>
      hstored moment (List.mem_append_right _ h)
    -- what one stretch leaves in the timer, the next one takes its frames from
    rw [hlater, hearlier, frameEnds_append, List.length_append]
    omega

theorem nil (hc : c.Ready) : Account c [] c where
  listener := rfl
  frames := rfl
  steps := rfl
  beeps := rfl
  signals := ⟨[], by simp, rfl⟩
  timers := by
    intro timer _
    have hvalue := hc.value_nonneg timer
    simp only [frameEnds, List.filter_nil, List.length_nil]
    omega

theorem keyed (hc : c.Ready) {move : Move} (hstep : move ≠ .step) (hclose : move ≠ .closeFrame)
    (keypad : Vector Bool 16) : Account c [⟨c, move⟩] { c with keypad := keypad } := by
  have hends : frameEnds [(⟨c, move⟩ : Moment ρ)] = [] := by simp [frameEnds, hclose]
  refine ⟨rfl, ?_, ?_, ?_, ⟨[], ?_, ?_⟩, ?_⟩
  · rw [hends]
    rfl
  · simp [stepsAmong, hstep]
  · rw [beepEnds, hends]
    rfl
  · simp
  · rw [beepEnds, hends]
    rfl
  · intro timer _
    -- no frame ends, and nothing less than zero is in the timer
    have hvalue := hc.value_nonneg timer
    show timer.value c.machine = _
    rw [hends, List.length_nil]
    omega

theorem stepped (hc : c.Ready) : Account c [⟨c, .step⟩] { c with
    engine := c.showKeypad.engine.after .step, steps := c.steps + 1 } where
  listener := rfl
  frames := rfl
  steps := rfl
  beeps := rfl
  signals := ⟨[], by simp, rfl⟩
  timers := by
    intro timer hstored
    have hvalue := hc.value_nonneg timer
    have hunstored : c.showKeypad.machine.stored? timer = none :=
      hstored ⟨c, .step⟩ List.mem_cons_self
    have hkept : timer.value (c.showKeypad.engine.after .step).machine =
        timer.value c.showKeypad.machine := by
      rw [Engine.after_machine]
      exact (Machine.stepped c.engine.variant c.engine.random c.showKeypad.machine).value hunstored
    have hshown : timer.value c.showKeypad.machine = timer.value c.machine := by
      cases timer <;> rfl
    have hends : frameEnds [(⟨c, .step⟩ : Moment ρ)] = [] := rfl
    show timer.value (c.showKeypad.engine.after .step).machine = _
    rw [hkept, hshown, hends, List.length_nil]
    omega

theorem closed (hc : c.Ready) : Account c [⟨c, .closeFrame⟩] { c with
    engine := c.engine.onMachine fun m => m.tick.takeBeep.takeRedraw
    frames := c.frames + 1
    beeps := if c.machine.sound = 1 then c.beeps + 1 else c.beeps
    recorders := if c.machine.redraw then c.recordersHearing else c.recorders
    signals := c.signals ++ c.heardAtEnd.toArray } where
  listener := rfl
  frames := rfl
  steps := rfl
  beeps := by
    by_cases hsound : c.machine.sound = 1
    · simp [beepEnds, frameEnds, hsound]
    · simp [beepEnds, frameEnds, hsound]
  signals := by
    refine ⟨c.heardAtEnd, by simp, ?_⟩
    have hafter : (Moment.after ⟨c, .closeFrame⟩ : Console ρ).frames = c.frames + 1 := by
      rw [Moment.after, Move.after_closeFrame, frameEnded_eq]
    rw [filter_heardAtEnd]
    by_cases hsound : c.machine.sound = 1
    · simp [beepEnds, frameEnds, hsound, hc.beep_tick.mpr hsound, hafter]
    · simp [beepEnds, frameEnds, hsound, hc.beep_tick]
  timers := by
    intro timer _
    -- only a timer that is not negative stops at zero
    have hvalue := hc.value_nonneg timer
    have hticked : timer.value c.machine.tick =
        if 0 < timer.value c.machine then timer.value c.machine - 1 else timer.value c.machine := by
      cases timer <;> rfl
    have hends : (frameEnds [(⟨c, .closeFrame⟩ : Moment ρ)]).length = 1 := rfl
    have hended : timer.value c.machine.tick.takeBeep.takeRedraw = timer.value c.machine.tick := by
      cases timer <;> rfl
    show timer.value c.machine.tick.takeBeep.takeRedraw = _
    rw [hended, hticked, hends]
    split <;> omega

end Account

theorem Moved.account (hc : c.Ready) {move : Move} (h : Moved c move d) :
    Account c [⟨c, move⟩] d := by
  cases h with
  | keyed hstep hclose keypad => exact .keyed hc hstep hclose keypad
  | stepped => exact .stepped hc
  | closed => exact .closed hc

/-- Behind a store, the timer holds what has been stored. -/
theorem Ready.value_of_stored (hc : c.Ready) {move : Move} {timer : Timer} {value : UInt8}
    (hstored : Moment.stored? timer ⟨c, move⟩ = some value) :
    timer.value (move.after c).machine = value.toNat := by
  unfold Moment.stored? at hstored
  split at hstored
  · rename_i hstep
    obtain rfl : move = .step := hstep
    have hshown : c.showKeypad.machine.stored? timer = some value := hstored
    rw [Move.after_step_of_loaded c hc.loaded]
    show timer.value (c.showKeypad.engine.after .step).machine = _
    rw [Engine.after_machine]
    show timer.value (c.showKeypad.machine.step c.engine.variant c.engine.random).1.machine = _
    rw [Machine.value_step, hshown]
    rfl
  · cases hstored

end Console

/-! ## Whole histories -/

variable {ρ : Type} [Generator ρ]

/-- Every stretch without loading has its account, and leads to a console that is ready. -/
theorem Path.account {c d : Console ρ} {path : List (Moment ρ)} (h : Path c path d)
    (hc : c.Ready) (hmoves : ∀ moment ∈ path, ∀ program, moment.move ≠ .load program) :
    d.Ready ∧ c.Account path d := by
  induction h with
  | nil c => exact ⟨hc, .nil hc⟩
  | cons hrest ih =>
      have hmoved := hc.moved (hmoves _ List.mem_cons_self)
      obtain ⟨hd, haccount⟩ := ih (hc.of_moved hmoved) fun moment hmem =>
        hmoves moment (List.mem_cons_of_mem _ hmem)
      exact ⟨hd, (hmoved.account hc).append haccount⟩

/-- A path is cut at any of its moments. -/
theorem Path.cut {c d : Console ρ} {earlier later : List (Moment ρ)} {moment : Moment ρ}
    (h : Path c (earlier ++ moment :: later) d) :
    Path c earlier moment.before ∧ Path moment.after later d := by
  induction earlier generalizing c with
  | nil =>
      cases h with
      | cons hrest => exact ⟨.nil _, hrest⟩
  | cons first rest ih =>
      cases h with
      | cons hrest =>
          obtain ⟨hbefore, hafter⟩ := ih hrest
          exact ⟨.cons hbefore, hafter⟩

theorem Request.eq_single_of_load_mem {request : Request} {stepsPerFrame : Nat}
    {program : List UInt8} (h : Move.load program ∈ request.moves stepsPerFrame) :
    request = .single (.load program) := by
  cases request with
  | single move => rw [List.mem_singleton.mp h]
  | advanceFrame => simp [moves, frameMoves] at h
  | run frames =>
      obtain ⟨frame, hframe, hload⟩ := List.mem_flatten.mp h
      rw [List.eq_of_mem_replicate hframe] at hload
      simp [frameMoves] at hload

namespace Console

theorem move_mem_of_mem_history {c : Console ρ} {requests : List Request} {moment : Moment ρ}
    (hmoment : moment ∈ c.history requests) :
    ∃ request ∈ requests, ∃ stepsPerFrame, moment.move ∈ request.moves stepsPerFrame := by
  induction requests generalizing c with
  | nil => cases hmoment
  | cons request rest ih =>
      rcases List.mem_append.mp hmoment with hfirst | hrest
      · exact ⟨request, List.mem_cons_self, _, move_mem_of_mem_moments hfirst⟩
      · obtain ⟨later, hlater, hmove⟩ := ih hrest
        exact ⟨later, List.mem_cons_of_mem _ hlater, hmove⟩

/-- **Timers, beeps and counters add up.**  After a program is loaded, whatever is
asked of the console but loading, a timer holds the value that was stored in it last
less the number of frames that have ended since, at least zero, and it holds zero if
nothing was stored.  No signal of the sound timer is left; the frames that ended
with one in the sound timer are counted as beeps, and the listener has heard of each
once.  Every end of a frame and every step is counted. -/
theorem timers_accounted {c loaded : Console ρ} {program : List UInt8}
    (hload : load program c = .ok () loaded) {requests : List Request}
    (hrequests : ∀ program, .single (.load program) ∉ requests) :
    let history := loaded.history requests
    let now := loaded.afterAll requests
    (∀ timer, (∀ moment ∈ history, moment.stored? timer = none) →
      Timer.value timer now.machine = 0) ∧
    (∀ timer earlier moment later value, history = earlier ++ moment :: later →
      Moment.stored? timer moment = some value →
      (∀ other ∈ later, other.stored? timer = none) →
      Timer.value timer now.machine = max 0 (value.toNat - (frameEnds later).length : Int)) ∧
    now.machine.beep = false ∧
    now.beeps = (beepEnds history).length ∧
    (∃ heard, now.signals.toList = loaded.signals.toList ++ heard ∧
      heard.filter Signal.isBeep =
        (beepEnds history).flatMap fun moment => loaded.beepListener.heard moment.after.frames) ∧
    now.frames = (frameEnds history).length ∧
    now.steps = (stepsAmong history).length := by
  intro history now
  -- a load counts everything from zero, so that the account of the history is the total
  obtain ⟨hready, hzero, hframes, hsteps, hbeeps⟩ := ready_of_load hload
  have hmoves : ∀ moment ∈ history, ∀ program, moment.move ≠ .load program := by
    intro moment hmoment program hmove
    obtain ⟨request, hrequest, stepsPerFrame, hmem⟩ := move_mem_of_mem_history hmoment
    rw [hmove] at hmem
    rw [Request.eq_single_of_load_mem hmem] at hrequest
    exact hrequests program hrequest
  have hpath : Path loaded history now := path_history loaded requests
  obtain ⟨hnow, haccount⟩ := hpath.account hready hmoves
  refine ⟨?_, ?_, hnow.silent, ?_, haccount.signals, ?_, ?_⟩
  · intro timer hstored
    rw [haccount.timers timer hstored, hzero]
    omega
  · intro timer earlier moment later value hsplit hstored hlater
    rw [hsplit] at hpath hmoves
    -- behind the last store, the account starts from the value stored
    obtain ⟨hbefore, hafter⟩ := hpath.cut
    obtain ⟨hmoment, -⟩ := hbefore.account hready fun other hother =>
      hmoves other (List.mem_append_left _ hother)
    have hmove := hmoves moment (List.mem_append_right _ List.mem_cons_self)
    obtain ⟨-, hrest⟩ := hafter.account (hmoment.of_moved (hmoment.moved hmove))
      fun other hother => hmoves other (List.mem_append_right _ (List.mem_cons_of_mem _ hother))
    rw [hrest.timers timer hlater, Moment.after, hmoment.value_of_stored hstored]
  · rw [haccount.beeps, hbeeps, Nat.zero_add]
  · rw [haccount.frames, hframes, Nat.zero_add]
  · rw [haccount.steps, hsteps, Nat.zero_add]

/-- A program stores two in both timers.  The sound timer runs out at the end of the
second frame, and the delay timer, set a frame later, does not. -/
theorem timers_accounted_on_beep :
    ∃ c : Console Cycle, assemble "chip8" 2 false (.ofList [7]) = .ok c ∧
      let program : List UInt8 := [0x60, 0x02, 0xF0, 0x18, 0xF0, 0x15, 0x12, 0x06]
      let loaded := (Move.load program).after c
      let requests : List Request := [.run 2, .single (.holdKey 16 true), .single .step]
      load program c = .ok () loaded ∧ (∀ program, .single (.load program) ∉ requests) ∧
        ∃ earlier moment later, loaded.history requests = earlier ++ moment :: later ∧
          Moment.stored? .delay moment = some 2 ∧
          (∀ other ∈ later, other.stored? .delay = none) ∧
          (loaded.afterAll requests).machine.delay = 1 ∧
          (loaded.afterAll requests).beeps = 1 := by
  refine ⟨_, rfl, ?_⟩
  intro program loaded requests
  have hload : ∀ c : Console Cycle, load program c = .ok () ((Move.load program).after c) := by
    intro c
    rw [Move.after_load_of_fits c (by decide), load_of_fits c (by decide)]
  have hloaded : load program _ = .ok () loaded := hload _
  have hrequests : ∀ program, .single (.load program) ∉ requests := by simp [requests]
  let history := loaded.history requests
  -- the store is the fourth move, and one frame ends behind it
  obtain ⟨hlength, hstored, hlater, hends, hbeepEnds⟩ : ∃ hlength : 3 < history.length,
      Moment.stored? .delay (history.get ⟨3, hlength⟩) = some 2 ∧
        (∀ other ∈ history.drop 4, other.stored? .delay = none) ∧
        (frameEnds (history.drop 4)).length = 1 ∧ (beepEnds history).length = 1 := by
    decide +kernel
  have hsplit : history = history.take 3 ++ history.get ⟨3, hlength⟩ :: history.drop 4 := by
    simp
  obtain ⟨-, hvalues, -, hbeeps, -⟩ := timers_accounted hloaded hrequests
  have hvalue := hvalues .delay _ _ _ 2 hsplit hstored hlater
  refine ⟨hloaded, hrequests, _, _, _, hsplit, hstored, hlater, ?_, ?_⟩
  · rw [hends] at hvalue
    exact hvalue
  · rw [hbeeps]
    exact hbeepEnds

end Console

end SuperChip
