import SuperChip.Monitor.Session
import SuperChip.Proofs.Schedule
import SuperChip.Proofs.WellFormed

/-!
# What the monitor can reach

An engine is reachable if some actions of a host lead to it from the start.  A
console does nothing else to its engine than a host could do, and the monitor
does nothing to its console that leads further.  So whatever has been typed, the
engine under observation is a reachable one, and all that is known of those is
known of it; above all, its machine is well-formed, so that no step fails.

## Strategy

An operation of the monitor is put together from smaller ones, may fail in the
middle and keeps what it has done by then.  `Attempt.Keeps` is made for this: an
operation keeps a property of the state if the property still holds after it,
whether it has failed or not.  One lemma for each way to put operations together
makes the commands follow from what they consist of, and a session follows by
induction on its lines.  `Monitor.Invariant` names the few changes that commands
are made of, so that a property kept by these is kept by every line.
-/

namespace SuperChip

/-! ## Operations that keep a property -/

namespace Attempt

variable {σ τ α β : Type}

/-- An operation keeps a property of the state, whether it fails or not. -/
def Keeps (P : σ → Prop) (operation : Attempt σ α) : Prop :=
  ∀ state, P state → P (after operation state)

namespace Keeps

variable {P : σ → Prop}

theorem pure (value : α) : Keeps P (Pure.pure value) :=
  fun _ h => h

theorem throw (fault : Fault) : Keeps P (MonadExcept.throw fault : Attempt σ α) :=
  fun _ h => h

theorem ofExcept (result : Except Fault α) : Keeps P (Attempt.ofExcept result) := by
  cases result with
  | ok value => exact .pure value
  | error fault => exact .throw fault

theorem modify {change : σ → σ} (h : ∀ state, P state → P (change state)) :
    Keeps P (modify change) :=
  h

theorem bind {first : Attempt σ α} {next : α → Attempt σ β} (hfirst : Keeps P first)
    (hnext : ∀ value, Keeps P (next value)) : Keeps P (first >>= next) := by
  intro state h
  have hstate := hfirst state h
  simp only [after, Bind.bind, EStateM.bind] at hstate ⊢
  cases hresult : first state with
  | ok value state' =>
      rw [hresult] at hstate
      exact hnext value state' hstate
  | error fault state' =>
      rw [hresult] at hstate
      exact hstate

/-- An operation may look at the state first, which has the property. -/
theorem get_bind {next : σ → Attempt σ β} (hnext : ∀ state, P state → Keeps P (next state)) :
    Keeps P (get >>= next) :=
  fun state h => hnext state h state h

theorem ite {condition : Prop} [Decidable condition] {first second : Attempt σ α}
    (hfirst : Keeps P first) (hsecond : Keeps P second) :
    Keeps P (if condition then first else second) := by
  split
  · exact hfirst
  · exact hsecond

theorem forM {members : List α} {operation : α → Attempt σ PUnit}
    (h : ∀ member, Keeps P (operation member)) : Keeps P (members.forM operation) := by
  induction members with
  | nil => exact .pure _
  | cons member rest ih => exact .bind (h member) fun _ => ih

theorem iterate {operation : Attempt σ Unit} (h : Keeps P operation) (count : Nat) :
    Keeps P (Attempt.iterate operation count) := by
  induction count with
  | zero => exact .pure _
  | succ count ih => exact .bind h fun _ => ih

/-- An operation on a part keeps a property of the whole if it keeps it as a property
of the part alone, whatever the rest is. -/
theorem onPart {get : σ → τ} {set : τ → σ → σ} {operation : Attempt τ α}
    (hself : ∀ state, set (get state) state = state)
    (h : ∀ state, Keeps (fun part => P (set part state)) operation) :
    Keeps P (Attempt.onPart get set operation) := by
  intro state hstate
  have hself : P (set (get state) state) := by
    rw [hself]
    exact hstate
  -- the part is changed in place, with the rest of the state fixed
  have hpart := h state (get state) hself
  simp only [after, Attempt.onPart] at hpart ⊢
  cases hresult : operation (get state) with
  | ok value part =>
      rw [hresult] at hpart
      exact hpart
  | error fault part =>
      rw [hresult] at hpart
      exact hpart

end Keeps

end Attempt

/-! ## Engines -/

namespace Engine

variable {ρ : Type} [Generator ρ] {e : Engine ρ}

/-- Some actions of a host lead from a fresh engine to this one. -/
def Reachable (e : Engine ρ) : Prop :=
  ∃ variant strict listening random actions,
    e = (fresh variant strict listening random).afterAll actions

namespace Reachable

theorem fresh (variant : Variant) (strict listening : Bool) (random : ρ) :
    (Engine.fresh variant strict listening random).Reachable :=
  ⟨variant, strict, listening, random, [], rfl⟩

theorem afterAll (h : e.Reachable) (actions : List HostAction) :
    (e.afterAll actions).Reachable := by
  obtain ⟨variant, strict, listening, random, before, rfl⟩ := h
  exact ⟨variant, strict, listening, random, before ++ actions, (afterAll_append _ _ _).symm⟩

theorem after (h : e.Reachable) (action : HostAction) : (e.after action).Reachable :=
  h.afterAll [action]

theorem wellFormed (h : e.Reachable) : e.machine.WellFormed := by
  obtain ⟨variant, strict, listening, random, actions, rfl⟩ := h
  exact wellFormed_afterAll Machine.WellFormed.fresh actions

/-- A reachable engine makes its step. -/
theorem step_eq (h : e.Reachable) : step e = .ok () (e.after .step) := by
  have hfault : e.fault? .step = none := by
    rw [fault_eq]
    exact (Machine.step_sound h.wellFormed e.variant e.random).1
  exact Attempt.ok_of_fault?_eq_none hfault

end Reachable

end Engine

/-! ## Consoles -/

namespace Console

theorem keeps_requireProgram {ρ : Type} (Q : Console ρ → Prop) :
    Attempt.Keeps Q requireProgram := by
  intro c h
  by_cases hloaded : c.loaded = true
  · simpa only [Attempt.after, requireProgram, if_pos hloaded] using h
  · simpa only [Attempt.after, requireProgram, if_neg hloaded] using h

variable {ρ : Type} [Generator ρ] {c : Console ρ}

/-- The engine of a console is reachable. -/
def Sound (c : Console ρ) : Prop := c.engine.Reachable

theorem sound_of_assemble {name : String} {cycles : Int} {strict : Bool} {random : ρ}
    (h : assemble name cycles strict random = .ok c) : c.Sound := by
  unfold assemble at h
  split at h
  · cases hvariant : Variant.ofName name with
    | ok variant =>
        rw [hvariant] at h
        cases h
        exact .fresh variant strict true random
    | error fault =>
        rw [hvariant] at h
        cases h
  · cases h

/-- A host can show a keypad to an engine key by key. -/
theorem showKeypad_eq (c : Console ρ) :
    c.showKeypad.engine = c.engine.afterAll
      ((List.finRange 16).map fun key => .writeKey key ((keyBytes c.keypad).get key)) := by
  -- writing some keys one by one changes these keys and nothing else
  have hkeys : ∀ (keys : List (Fin 16)) (e : Engine ρ),
      e.afterAll (keys.map fun key => .writeKey key ((keyBytes c.keypad).get key)) =
        e.onMachine fun m => { m with
          keys := keys.foldl (fun slots key => Slots.put slots key ((keyBytes c.keypad).get key))
            m.keys } := by
    intro keys
    induction keys with
    | nil =>
        intro e
        rfl
    | cons key rest ih =>
        intro e
        exact ih (e.after (.writeKey key ((keyBytes c.keypad).get key)))
  simp only [hkeys, Slots.foldl_put_finRange]
  rfl

theorem Sound.showKeypad (h : c.Sound) : c.showKeypad.Sound := by
  unfold Sound
  rw [showKeypad_eq]
  exact Engine.Reachable.afterAll h _

/-- The end of a frame is a tick, and then both signals are taken. -/
theorem Sound.frameEnded (h : c.Sound) : c.frameEnded.2.Sound := by
  rw [frameEnded_eq]
  exact Engine.Reachable.afterAll h [.tick, .takeBeep, .takeRedraw]

theorem Sound.step_eq (h : c.Sound) (hloaded : c.loaded = true) :
    step c = .ok () { c with
      engine := c.showKeypad.engine.after .step, steps := c.steps + 1 } :=
  step_ok hloaded (Engine.Reachable.step_eq h.showKeypad)

/-- A move leads from a sound console to a sound one, whether it fails or not. -/
theorem Sound.after (h : c.Sound) (move : Move) : (move.after c).Sound := by
  cases move with
  | load program =>
      by_cases hfits : program.length ≤ programLimit
      · have hrestarted := Engine.Reachable.after h (.restart program)
        rw [Engine.after_restart c.engine hfits] at hrestarted
        rw [Move.after_load_of_fits c hfits]
        exact hrestarted
      · rw [Move.after_load_of_too_large c (by omega)]
        exact h
  | holdKey key pressed =>
      obtain ⟨keypad, hkeypad⟩ := Move.after_holdKey c key pressed
      rw [hkeypad]
      exact h
  | releaseKeys =>
      rw [Move.after_releaseKeys]
      exact h
  | step =>
      cases hloaded : c.loaded with
      | false =>
          rw [Move.after_step_of_not_loaded c hloaded]
          exact h
      | true =>
          rw [Move.after_step_of_loaded c hloaded]
          exact Engine.Reachable.after h.showKeypad .step
  | closeFrame => exact h.frameEnded

/-- A property that survives a step and the end of a frame survives a frame. -/
theorem keeps_advanceFrame {Q : Console ρ → Prop} (hstep : Attempt.Keeps Q step)
    (hclose : Attempt.Keeps Q closeFrame) : Attempt.Keeps Q advanceFrame :=
  .bind (keeps_requireProgram Q) fun _ => .get_bind fun _ _ =>
    .bind (.iterate hstep _) fun _ => hclose

/-- A property of consoles that survives all moves and bytes written to memory. -/
structure Invariant (Q : Console ρ → Prop) : Prop where
  move : ∀ c move, Q c → Q (Move.after move c)
  writeByte : ∀ c address value, Q c →
    Q { c with engine := c.engine.after (.writeByte address value) }

theorem invariant_sound : Invariant (Sound (ρ := ρ)) where
  move _ move h := h.after move
  writeByte _ address value h := Engine.Reachable.after h (.writeByte address value)

namespace Invariant

open Attempt

variable {Q : Console ρ → Prop} (hQ : Invariant Q)

include hQ

theorem keeps_load (program : List UInt8) : Keeps Q (load program) :=
  fun c h => hQ.move c (.load program) h

theorem keeps_loadFrom (files : Files) (path : String) : Keeps Q (loadFrom files path) :=
  .bind (.ofExcept _) fun program => hQ.keeps_load program

theorem keeps_holdKeyNumber (key : Int) (pressed : Bool) : Keeps Q (holdKeyNumber key pressed) :=
  fun c h => hQ.move c (.holdKey key pressed) h

theorem keeps_step : Keeps Q step :=
  fun c h => hQ.move c .step h

theorem keeps_closeFrame : Keeps Q closeFrame :=
  fun c h => hQ.move c .closeFrame h

theorem keeps_advanceFrame : Keeps Q advanceFrame :=
  Console.keeps_advanceFrame hQ.keeps_step hQ.keeps_closeFrame

theorem keeps_runFrom (redraws frames : Nat) : Keeps Q (runFrom redraws frames) := by
  induction frames generalizing redraws with
  | zero => exact .pure _
  | succ frames ih => exact .bind hQ.keeps_advanceFrame fun _ => ih _

end Invariant

end Console

/-! ## The monitor -/

/-- A command that only looks, with every argument. -/
def Command.looks : Command → Bool
  | regs | status | timers | frame | dump | disasm | quit | endOfInput | help => true
  | _ => false

example : (Command.all.filter Command.looks).flatMap Command.names =
    ["regs", "status", "timers", "frame", "dump", "mem", "disasm", "dis", "quit", "exit", "q",
      "EOF", "help"] := by
  decide

namespace Monitor

open Attempt

variable {ρ : Type}

/-- A property that does not depend on what has been printed. -/
def IgnoresOutput (P : Monitor ρ → Prop) : Prop :=
  ∀ m printed, P m → P { m with printed := printed }

section Inspection

variable {P : Monitor ρ → Prop} (hP : IgnoresOutput P)

include hP

theorem keeps_print (text : String) : Keeps P (print text) :=
  .modify fun m h => hP m _ h

theorem keeps_listBreakpoints : Keeps P listBreakpoints := by
  refine .get_bind fun m _ => ?_
  split
  · exact keeps_print hP _
  · exact .bind (keeps_print hP _) fun _ => .forM fun _ => keeps_print hP _

theorem keeps_listKeys : Keeps P listKeys :=
  .get_bind fun _ _ => .bind (keeps_print hP _) fun _ => keeps_print hP _

theorem keeps_timers : Keeps P timers :=
  .get_bind fun _ _ => keeps_print hP _

theorem keeps_frame : Keeps P frame :=
  .get_bind fun _ _ => .forM fun _ => keeps_print hP _

omit hP in
theorem keeps_address (text : String) : Keeps P (address text) :=
  .get_bind fun _ _ => .ofExcept _

omit hP in
theorem keeps_numberOr (otherwise : Int) (text : String) : Keeps P (numberOr otherwise text) :=
  .ite (.pure _) (.ofExcept _)

theorem keeps_dumpRows (stop start : Int) (rows : Nat) : Keeps P (dumpRows stop start rows) := by
  induction rows generalizing start with
  | zero => exact .pure _
  | succ rows ih =>
      refine .get_bind fun _ _ => .bind (.ofExcept _) fun _ => ?_
      exact .bind (keeps_print hP _) fun _ => ih _

theorem keeps_dump (argument : String) : Keeps P (dump argument) := by
  refine .bind (.ofExcept _) fun words => ?_
  cases words with
  | nil => exact keeps_print hP _
  | cons start rest =>
      refine .bind (keeps_address start) fun first => ?_
      cases rest with
      | nil => exact .bind (.pure _) fun _ => keeps_dumpRows hP _ _ _
      | cons count rest => exact .bind (.ofExcept _) fun _ => keeps_dumpRows hP _ _ _

theorem keeps_disassembleFrom (address : Int) (count : Nat) :
    Keeps P (disassembleFrom address count) := by
  induction count generalizing address with
  | zero => exact .pure _
  | succ count ih =>
      refine .get_bind fun _ _ => .ite (.pure _) ?_
      exact .bind (keeps_print hP _) fun _ => ih _

theorem keeps_disassemble (argument : String) : Keeps P (disassemble argument) := by
  refine .bind (.ofExcept _) fun words => ?_
  have hrows := keeps_disassembleFrom hP
  dsimp only
  cases words.head? with
  | none =>
      refine .get_bind fun m _ => .bind (.pure _) fun first => ?_
      cases words.tail.head? with
      | none => exact .bind (.pure _) fun _ => hrows _ _
      | some count => exact .bind (.ofExcept _) fun _ => hrows _ _
  | some start =>
      refine .bind (keeps_address start) fun first => ?_
      cases words.tail.head? with
      | none => exact .bind (.pure _) fun _ => hrows _ _
      | some count => exact .bind (.ofExcept _) fun _ => hrows _ _

theorem keeps_ready : Keeps P ready :=
  .get_bind fun _ _ => .ite (.pure _) (.bind (keeps_print hP _) fun _ => .pure _)

omit hP in
theorem keeps_goOn {operation : Attempt (Monitor ρ) Unit} (h : Keeps P operation) :
    Keeps P (goOn operation) :=
  .bind h fun _ => .pure _

/-- A command that looks does nothing but print. -/
theorem keeps_perform_of_looks [Generator ρ] {command : Command} (hlooks : command.looks = true)
    (files : Files) (argument : String) : Keeps P (perform files command argument) := by
  cases command with
  | regs => exact keeps_goOn (.get_bind fun _ _ => keeps_print hP _)
  | status =>
      exact keeps_goOn (.get_bind fun _ _ => .bind (.ofExcept _) fun _ => keeps_print hP _)
  | timers => exact keeps_goOn (keeps_timers hP)
  | frame => exact keeps_goOn (keeps_frame hP)
  | dump => exact keeps_goOn (keeps_dump hP argument)
  | disasm => exact keeps_goOn (keeps_disassemble hP argument)
  | quit => exact .bind (keeps_print hP _) fun _ => .pure _
  | endOfInput =>
      exact .bind (keeps_print hP _) fun _ => .bind (keeps_print hP _) fun _ => .pure _
  | help => exact keeps_goOn (keeps_print hP _)
  | _ => cases hlooks

end Inspection

/-! ## Commands that change the console -/

/-- A property of monitors that survives what is printed, all breakpoints, and the
moves of the console and bytes written to its memory. -/
structure Invariant [Generator ρ] (P : Monitor ρ → Prop) : Prop where
  output : IgnoresOutput P
  breakpoints : ∀ m breakpoints, P m → P { m with breakpoints := breakpoints }
  move : ∀ m move, P m → P { m with console := Move.after move m.console }
  writeByte : ∀ m address value, P m → P { m with
    console := { m.console with
      engine := m.console.engine.after (.writeByte address value) } }

/-- A property of monitors that survives another path of the program. -/
def IgnoresPath (P : Monitor ρ → Prop) : Prop :=
  ∀ m path, P m → P { m with programPath := some path }

section Commands

variable [Generator ρ]

/-- A property that is one of the console alone. -/
theorem invariant_console {Q : Console ρ → Prop} (hQ : Console.Invariant Q) :
    Invariant fun m => Q m.console where
  output _ _ h := h
  breakpoints _ _ h := h
  move m move h := hQ.move m.console move h
  writeByte m address value h := hQ.writeByte m.console address value h

variable {P : Monitor ρ → Prop} (hP : Invariant P)

include hP

theorem Invariant.console (m : Monitor ρ) :
    Console.Invariant fun c => P { m with console := c } where
  move c move h := hP.move { m with console := c } move h
  writeByte c address value h := hP.writeByte { m with console := c } address value h

omit [Generator ρ] hP in
theorem keeps_onConsole {α : Type} {operation : Attempt (Console ρ) α}
    (h : ∀ m : Monitor ρ, Keeps (fun c => P { m with console := c }) operation) :
    Keeps P (onConsole operation) :=
  .onPart (fun _ => rfl) h

theorem keeps_loadPath (hpath : IgnoresPath P) (files : Files) (path : String) :
    Keeps P (loadPath files path) := by
  intro m h
  have hconsole : P { m with
      console := Attempt.after (Console.loadFrom files path) m.console } :=
    (hP.console m).keeps_loadFrom files path m.console h
  unfold Attempt.after at hconsole ⊢
  unfold loadPath
  -- whatever the load comes to, the console is that of the load
  cases hresult : Console.loadFrom files path m.console with
  | ok value c =>
      rw [hresult] at hconsole
      exact hP.output _ _ (hpath _ path hconsole)
  | error fault c =>
      rw [hresult] at hconsole
      cases fault with
      | programTooLarge size => exact hP.output _ _ hconsole
      | file cause => exact hP.output _ _ hconsole
      | _ => exact hconsole

theorem keeps_load (hpath : IgnoresPath P) (files : Files) (argument : String) :
    Keeps P (load files argument) := by
  refine .bind (.ofExcept _) fun words => ?_
  cases words with
  | nil => exact keeps_print hP.output _
  | cons path rest => exact keeps_loadPath hP hpath files path

theorem keeps_reset (hpath : IgnoresPath P) (files : Files) : Keeps P (reset files) := by
  refine .get_bind fun m _ => ?_
  cases m.programPath with
  | none => exact keeps_print hP.output _
  | some path => exact keeps_load hP hpath files _

theorem keeps_steps (count : Nat) : Keeps P (steps count) := by
  have hstep := keeps_onConsole fun m => (hP.console m).keeps_step
  have hprint := keeps_print hP.output
  induction count with
  | zero => exact .pure _
  | succ count ih =>
      refine .get_bind fun before _ => .ite ?_ ?_
      · refine .bind hstep fun _ => .get_bind fun after _ => ?_
        exact .ite (hprint _) ih
      · exact .bind hstep fun _ => .bind (hprint _) fun _ => ih

theorem keeps_step (argument : String) : Keeps P (step argument) := by
  refine .bind (keeps_ready hP.output) fun ready => .ite ?_ (.pure _)
  exact .bind (keeps_numberOr _ _) fun count => keeps_steps hP _

section Frames

variable {Q : Console ρ → Prop} (hQ : Console.Invariant Q)

omit hP

include hQ

theorem keeps_stepsToBreakpoint (breakpoints : List Int) (count : Nat) :
    Keeps Q (stepsToBreakpoint breakpoints count) := by
  induction count with
  | zero => exact .pure _
  | succ count ih =>
      exact .get_bind fun _ _ => .ite (.pure _) (.bind hQ.keeps_step fun _ => ih)

theorem keeps_framesToBreakpoint (breakpoints : List Int) (done count : Nat) :
    Keeps Q (framesToBreakpoint breakpoints done count) := by
  induction count generalizing done with
  | zero => exact .pure _
  | succ count ih =>
      refine .get_bind fun _ _ => .bind (keeps_stepsToBreakpoint hQ _ _) fun hit => ?_
      exact .ite (.pure _) (.bind hQ.keeps_closeFrame fun _ => ih _)

theorem keeps_framesWith (breakpoints : List Int) (frames : Int) :
    Keeps Q (framesWith breakpoints frames) :=
  .ite (.bind (hQ.keeps_runFrom _ _) fun _ => .pure _) (keeps_framesToBreakpoint hQ _ _ _)

end Frames

theorem keeps_advanceFrames (frames : Int) : Keeps P (advanceFrames frames) := by
  refine .get_bind fun _ _ => ?_
  refine .bind (keeps_onConsole fun m => keeps_framesWith (hP.console m) _ _) fun hit => ?_
  -- what is said in the end has no numeral perhaps, but looks at the console only
  exact .get_bind fun _ _ => .bind (.ofExcept _) fun _ => keeps_print hP.output _

theorem keeps_run (argument : String) : Keeps P (run argument) := by
  refine .bind (keeps_ready hP.output) fun ready => .ite ?_ (.pure _)
  exact .bind (keeps_numberOr _ _) fun frames => keeps_advanceFrames hP _

theorem keeps_setBreakpoint (argument : String) : Keeps P (setBreakpoint argument) := by
  have hprint := keeps_print hP.output
  refine .ite (keeps_listBreakpoints hP.output) ?_
  refine .bind (keeps_address _) fun address => ?_
  exact .bind (.modify fun m h => hP.breakpoints m _ h) fun _ => hprint _

theorem keeps_deleteBreakpoint (argument : String) : Keeps P (deleteBreakpoint argument) := by
  have hprint := keeps_print hP.output
  refine .ite ?_ ?_
  · exact .bind (.modify fun m h => hP.breakpoints m _ h) fun _ => hprint _
  · refine .bind (keeps_address _) fun address => ?_
    exact .bind (.modify fun m h => hP.breakpoints m _ h) fun _ => hprint _

theorem keeps_key (argument : String) : Keeps P (key argument) := by
  refine .bind (.ofExcept _) fun words => ?_
  cases words with
  | nil => exact keeps_listKeys hP.output
  | cons number state =>
      intro m h
      have hhold : ∀ pressed, P { m with
          console := Attempt.after (holdKey number pressed) m.console } := by
        intro pressed
        have hkeeps : Keeps (fun c => P { m with console := c }) (holdKey number pressed) := by
          refine .bind (.ofExcept _) fun key => ?_
          exact .bind ((hP.console m).keeps_holdKeyNumber key pressed) fun _ => .pure _
        exact hkeeps m.console h
      have hconsole := hhold (state.head?.map lowercased != some "up")
      unfold Attempt.after at hconsole ⊢
      dsimp only
      cases hresult : holdKey number (state.head?.map lowercased != some "up") m.console with
      | ok key c =>
          rw [hresult] at hconsole
          exact hP.output _ _ hconsole
      | error fault c =>
          rw [hresult] at hconsole
          exact hP.output _ _ hconsole

theorem keeps_writeBytes (address : Int) (words : List String) :
    Keeps P (writeBytes address words) := by
  induction words generalizing address with
  | nil => exact .pure _
  | cons word rest ih =>
      refine .bind (.ofExcept _) fun value => .bind (keeps_onConsole ?_) fun _ => ih _
      exact fun m c h => (hP.console m).writeByte c address value h

theorem keeps_setMemory (argument : String) : Keeps P (setMemory argument) := by
  have hprint := keeps_print hP.output
  refine .bind (.ofExcept _) fun words => ?_
  match words with
  | [] => exact hprint _
  | [_] => exact hprint _
  | start :: word :: rest =>
      refine .bind (keeps_address _) fun address => ?_
      exact .bind (keeps_writeBytes hP _ _) fun _ => hprint _

/-- No command leads out of an invariant, if those that load a program do not. -/
theorem keeps_perform (files : Files) (command : Command) (argument : String)
    (hpath : command = .load ∨ command = .reset → IgnoresPath P) :
    Keeps P (perform files command argument) := by
  cases command with
  | load => exact keeps_goOn (keeps_load hP (hpath (.inl rfl)) files argument)
  | reset => exact keeps_goOn (keeps_reset hP (hpath (.inr rfl)) files)
  | step => exact keeps_goOn (keeps_step hP argument)
  | run => exact keeps_goOn (keeps_run hP argument)
  | resume => exact keeps_goOn (keeps_run hP argument)
  | bp => exact keeps_goOn (keeps_setBreakpoint hP argument)
  | bpd => exact keeps_goOn (keeps_deleteBreakpoint hP argument)
  | key => exact keeps_goOn (keeps_key hP argument)
  | setmem => exact keeps_goOn (keeps_setMemory hP argument)
  | _ => exact keeps_perform_of_looks hP.output rfl files argument

theorem keeps_execute (files : Files) (line : String)
    (hpath : ∀ command argument, MonitorLine.read line = .command command argument →
      command = .load ∨ command = .reset → IgnoresPath P) :
    Keeps P (execute files line) := by
  unfold execute
  cases hline : MonitorLine.read line with
  | blank => exact .pure _
  | command command argument =>
      exact keeps_perform hP files command argument (hpath command argument hline)
  | unknown text => exact keeps_goOn (keeps_print hP.output _)

end Commands

/-! ## Reachable monitors -/

variable [Generator ρ]

/-- A monitor that observes a console with a reachable engine, after some lines. -/
inductive Reachable : Monitor ρ → Prop
  | observing {console : Console ρ} (hengine : console.engine.Reachable) (path : Option String) :
      Reachable { observing console with programPath := path }
  | line {m : Monitor ρ} (hm : Reachable m) (files : Files) (line : String) :
      Reachable (Attempt.after (execute files line) m)

/-- Whatever has been typed, the engine under observation is a reachable one. -/
theorem Reachable.sound {m : Monitor ρ} (hm : m.Reachable) : m.console.Sound := by
  induction hm with
  | observing hengine path => exact hengine
  | line _ files line ih =>
      have hsound := invariant_console (Console.invariant_sound (ρ := ρ))
      exact keeps_execute hsound files line (fun _ _ _ _ _ _ h => h) _ ih

end Monitor

end SuperChip
