import SuperChip.Proofs.FailedLoads
import SuperChip.Proofs.Progress
import SuperChip.Proofs.Reload
import SuperChip.Proofs.StepTrace

/-!
# Lines that change nothing

Some lines only look at what there is: whatever their arguments are and whether they fail
or not, nothing changes but what has been printed.  Every other line but `setmem` changes
nothing either if it fails, with one exception.  Frames are run before it is said how many
they were, and where that number has no numeral, the line fails with its frames run.

## Strategy

For a line that looks this is a property of all its parts (`keeps_of_looks`).  Any other
command reads its arguments before it does anything, and what it does then does not fail:
`Attempt.Careful` is put together from a part that only reads and a part that is
`Attempt.Total`.  Loading catches what fails behind the opening of the file.  For steps
and frames, that they do not fail is a fact about the machine: the engine under
observation is a reachable one, so that no step of it fails.  What is left is the line that
says how a run has ended (`error_of_asksForFrames`).
-/

namespace SuperChip

/-! ## Operations that fail early or not at all -/

namespace Attempt

variable {σ α β : Type}

theorem Keeps.get {P : σ → Prop} : Keeps P (MonadState.get : Attempt σ σ) :=
  fun _ h => h

/-- An operation that does not fail. -/
def Total (operation : Attempt σ α) : Prop :=
  ∀ state, ∃ value last, operation state = .ok value last

/-- An operation that leaves the state as it was if it fails. -/
def Careful (operation : Attempt σ α) : Prop :=
  ∀ state fault last, operation state = .error fault last → last = state

namespace Total

theorem pure (value : α) : Total (Pure.pure value : Attempt σ α) :=
  fun state => ⟨value, state, rfl⟩

theorem modify (change : σ → σ) : Total (modify change : Attempt σ PUnit) :=
  fun state => ⟨⟨⟩, change state, rfl⟩

theorem bind {first : Attempt σ α} {next : α → Attempt σ β} (hfirst : Total first)
    (hnext : ∀ value, Total (next value)) : Total (first >>= next) := by
  intro state
  obtain ⟨value, middle, hvalue⟩ := hfirst state
  obtain ⟨result, last, hresult⟩ := hnext value middle
  refine ⟨result, last, ?_⟩
  simp only [Bind.bind, EStateM.bind, hvalue, hresult]

theorem get : Total (MonadState.get : Attempt σ σ) :=
  fun state => ⟨state, state, rfl⟩

theorem forM {members : List α} {operation : α → Attempt σ PUnit}
    (h : ∀ member, Total (operation member)) : Total (members.forM operation) := by
  induction members with
  | nil => exact .pure _
  | cons member rest ih => exact .bind (h member) fun _ => ih

end Total

namespace Careful

theorem of_total {operation : Attempt σ α} (h : Total operation) : Careful operation := by
  intro state fault last hfault
  obtain ⟨value, reached, hvalue⟩ := h state
  rw [hvalue] at hfault
  cases hfault

/-- A part that only reads the state, and behind it a careful one. -/
theorem bind {first : Attempt σ α} {next : α → Attempt σ β} (hfirst : ∀ P, Keeps P first)
    (hnext : ∀ value, Careful (next value)) : Careful (first >>= next) := by
  intro state fault last hfault
  have hreads : after first state = state := hfirst (· = state) state rfl
  simp only [after, Bind.bind, EStateM.bind] at hreads hfault
  cases hresult : first state with
  | ok value middle =>
      rw [hresult] at hreads hfault
      obtain rfl : middle = state := hreads
      exact hnext value middle fault last hfault
  | error cause middle =>
      rw [hresult] at hreads hfault
      cases hfault
      exact hreads

theorem ite {condition : Prop} [Decidable condition] {first second : Attempt σ α}
    (hfirst : Careful first) (hsecond : Careful second) :
    Careful (if condition then first else second) := by
  split
  · exact hfirst
  · exact hsecond

end Careful

end Attempt

/-! ## Lines that look -/

/-- A line that only looks.  Breakpoints and keys are shown where there is no argument. -/
def MonitorLine.Looks : MonitorLine → Prop
  | .blank => True
  | .unknown _ => True
  | .command known argument =>
    known.looks = true ∨ (known = .bp ∨ known = .key) ∧ argument = ""

namespace Monitor

open Attempt

variable {ρ : Type}

theorem setBreakpoint_empty : (setBreakpoint "" : Attempt (Monitor ρ) Unit) = listBreakpoints :=
  if_pos rfl

theorem key_empty : (key "" : Attempt (Monitor ρ) Unit) = listKeys :=
  rfl

theorem total_print (text : String) : Total (print text : Attempt (Monitor ρ) Unit) :=
  .modify _

theorem total_listBreakpoints : Total (listBreakpoints : Attempt (Monitor ρ) Unit) := by
  refine .bind .get fun m => ?_
  split
  · exact total_print _
  · exact .bind (total_print _) fun _ => .forM fun _ => total_print _

theorem total_listKeys : Total (listKeys : Attempt (Monitor ρ) Unit) :=
  .bind .get fun _ => .bind (total_print _) fun _ => total_print _

/-! ## Commands that fail before they do anything -/

theorem keeps_splitWords (P : Monitor ρ → Prop) (argument : String) :
    Keeps P (splitWords argument) :=
  .ofExcept _

theorem careful_setBreakpoint (argument : String) :
    Careful (setBreakpoint argument : Attempt (Monitor ρ) Unit) := by
  refine .ite (.of_total total_listBreakpoints) ?_
  refine .bind (fun _ => keeps_address argument) fun address => .of_total ?_
  exact .bind (.modify _) fun _ => total_print _

theorem careful_deleteBreakpoint (argument : String) :
    Careful (deleteBreakpoint argument : Attempt (Monitor ρ) Unit) := by
  refine .ite (.of_total ?_) ?_
  · exact .bind (.modify _) fun _ => total_print _
  · refine .bind (fun _ => keeps_address argument) fun address => .of_total ?_
    exact .bind (.modify _) fun _ => total_print _

theorem careful_key (argument : String) : Careful (key argument : Attempt (Monitor ρ) Unit) := by
  refine .bind (fun P => keeps_splitWords P argument) fun words => .of_total ?_
  cases words with
  | nil => exact total_listKeys
  | cons number state =>
      -- a key that does not exist is reported, not raised
      intro m
      dsimp only
      split
      · exact ⟨_, _, rfl⟩
      · exact ⟨_, _, rfl⟩

/-- A file that does not open is all that `loadPath` may fail for, and then nothing has been
loaded. -/
theorem careful_loadPath (files : Files) (path : String) :
    Careful (loadPath files path : Attempt (Monitor ρ) Unit) := by
  intro m fault last hfault
  unfold loadPath at hfault
  -- a file that does not open or is too large is reported, which is no fault
  cases hfile : Console.readFile files path with
  | error cause =>
      rw [Console.loadFrom_of_error hfile] at hfault
      cases cause with
      | programTooLarge size => cases hfault
      | file cause => cases hfault
      | _ =>
          cases hfault
          rfl
  | ok program =>
      rw [Console.loadFrom_of_ok hfile] at hfault
      by_cases hfits : program.length ≤ programLimit
      · rw [Console.load_of_fits m.console hfits] at hfault
        cases hfault
      · rw [Console.load_of_too_large m.console (by omega)] at hfault
        cases hfault

theorem careful_load (files : Files) (argument : String) :
    Careful (load files argument : Attempt (Monitor ρ) Unit) := by
  refine .bind (fun P => keeps_splitWords P argument) fun words => ?_
  cases words with
  | nil => exact .of_total (total_print _)
  | cons path rest => exact careful_loadPath files path

theorem careful_reset (files : Files) : Careful (reset files : Attempt (Monitor ρ) Unit) := by
  refine .bind (fun _ => .get) fun m => ?_
  cases m.programPath with
  | none => exact .of_total (total_print _)
  | some path => exact careful_load files _

/-! ## Commands that run the program -/

variable {m after : Monitor ρ} {argument : String} {fault : Fault}

theorem numberOr_cases (otherwise : Int) (text : String) (m : Monitor ρ) :
    (∃ number, numberOr otherwise text m = .ok number m) ∨
      ∃ fault, numberOr otherwise text m = .error fault m := by
  unfold numberOr
  split
  · exact .inl ⟨otherwise, rfl⟩
  · cases readNumber text with
    | ok number => exact .inl ⟨number, rfl⟩
    | error fault => exact .inr ⟨fault, rfl⟩

/-- Without a program, a command that runs it says so and does not fail. -/
theorem loaded_of_ready_error [Generator ρ] {next : Attempt (Monitor ρ) Unit}
    (h : (ready >>= fun loaded => if loaded then next else pure ()) m = .error fault after) :
    m.console.loaded = true ∧ next m = .error fault after := by
  cases hloaded : m.console.loaded with
  | false =>
      simp only [ready, bind, EStateM.bind, get_eq, hloaded] at h
      cases h
  | true =>
      have hready : ready m = .ok true m := by
        simp only [ready, bind, EStateM.bind, get_eq, if_pos hloaded]
        rfl
      simp only [bind, EStateM.bind, hready, if_true] at h
      exact ⟨rfl, h⟩

theorem error_cases_of_numberOr {otherwise : Int} {next : Int → Attempt (Monitor ρ) Unit}
    (h : (numberOr otherwise argument >>= next) m = .error fault after) :
    after = m ∨ ∃ number, numberOr otherwise argument m = .ok number m ∧
      next number m = .error fault after := by
  simp only [bind, EStateM.bind] at h
  rcases numberOr_cases otherwise argument m with ⟨number, hnumber⟩ | ⟨cause, hrefused⟩
  · rw [hnumber] at h
    exact .inr ⟨number, hnumber, h⟩
  · rw [hrefused] at h
    cases h
    exact .inl rfl

variable [Generator ρ]

theorem eq_of_step_error (hsound : m.console.Sound)
    (h : step argument m = .error fault after) : after = m := by
  obtain ⟨hloaded, hfailed⟩ := loaded_of_ready_error h
  rcases error_cases_of_numberOr hfailed with hsame | ⟨count, -, hsteps⟩
  · exact hsame
  · have hrunning : m.console.Running m.console.stepsPerFrame := ⟨hsound, hloaded, rfl⟩
    obtain ⟨made, reached, note, -, hmade, -⟩ := steps_cases count.toNat hrunning
    rw [hmade] at hsteps
    cases hsteps

/-- A run that is asked for no frames changes nothing if it fails. -/
theorem eq_of_run_error (hnone : ∀ frames, 1 ≤ frames → numberOr 60 argument m ≠ .ok frames m)
    (h : run argument m = .error fault after) : after = m := by
  obtain ⟨-, hfailed⟩ := loaded_of_ready_error h
  rcases error_cases_of_numberOr hfailed with hsame | ⟨frames, hnumber, hframes⟩
  · exact hsame
  -- the count is read, but it is none of a frame: nothing has run before the fault
  · have hfew : frames ≤ 0 := by
      by_contra hmany
      exact hnone frames (by omega) hnumber
    rw [advanceFrames_eq (framesWith_of_nonpos hfew m.breakpoints m.console)] at hframes
    cases hshown : endLine frames m.console.machine.pc none with
    | ok shown =>
        rw [hshown] at hframes
        cases hframes
    | error cause =>
        rw [hshown] at hframes
        cases hframes
        rfl

/-- A line that asks for frames fails for a number of frames without a numeral, and then the
frames have been run. -/
theorem error_of_asksForFrames (hsound : m.console.Sound) {line : String} {frames : Int}
    (hline : AsksForFrames line frames) {files : Files}
    (h : execute files line m = .error fault after) :
    10 ^ Numeral.decimalLimit ≤ frames.toNat ∧
      ∃ hit last, framesWith m.breakpoints frames m.console = .ok hit last ∧
        after = { m with console := last } := by
  have hloaded : m.console.loaded = true := by
    obtain ⟨-, command, argument, hcommand, hread, -⟩ := hline
    have hrun : execute files line m = goOn (run argument) m := by
      rcases hcommand with rfl | rfl
      · simp only [execute, hread, perform]
      · simp only [execute, hread, perform]
    rw [hrun] at h
    cases hresult : run argument m with
    | ok value last =>
        simp only [goOn, bind, EStateM.bind, hresult] at h
        cases h
    | error cause last => exact (loaded_of_ready_error hresult).1
  have hrunning : m.console.Running m.console.stepsPerFrame := ⟨hsound, hloaded, rfl⟩
  obtain ⟨hit, last, moves, hresult, -⟩ := exists_framesWith m.breakpoints frames hrunning
  rw [execute_of_asksForFrames hloaded files hline hresult] at h
  refine ⟨?_, hit, last, hresult, ?_⟩
  · -- fewer frames have a numeral, and so have those before a breakpoint
    by_contra hlimit
    have hfew : frames.toNat < 10 ^ Numeral.decimalLimit := Nat.not_le.mp hlimit
    cases hit with
    | none =>
        have hnumber : Numeral.write frames = .ok (toString frames) := by
          have habs : frames.natAbs = frames.toNat := by
            have hpositive := hline.1
            omega
          exact Numeral.write_of_lt (habs ▸ hfew)
        rw [endLine_none hnumber] at h
        cases h
    | some done =>
        rw [endLine_some ((lt_of_framesWith hrunning hresult).trans hfew)] at h
        cases h
  · cases hshown : endLine frames last.machine.pc hit with
    | ok shown =>
        rw [hshown] at h
        cases h
    | error cause =>
        rw [hshown] at h
        cases h
        rfl

/-! ## Lines -/

variable {line : String}

omit [Generator ρ] in
theorem eq_of_goOn_error {operation : Attempt (Monitor ρ) Unit}
    (hoperation : operation m = .error fault after → after = m)
    (h : goOn operation m = .error fault after) : after = m := by
  simp only [goOn, bind, EStateM.bind] at h
  cases hresult : operation m with
  | ok value last =>
      rw [hresult] at h
      cases h
  | error cause last =>
      rw [hresult] at h
      cases h
      exact hoperation hresult

/-- A line that looks keeps whatever does not depend on what has been printed. -/
theorem keeps_of_looks {P : Monitor ρ → Prop} (hP : IgnoresOutput P) (files : Files)
    (hlooks : (MonitorLine.read line).Looks) : Keeps P (execute files line) := by
  unfold execute
  cases hline : MonitorLine.read line with
  | blank => exact .pure _
  | unknown text => exact keeps_goOn (keeps_print hP _)
  | command command argument =>
      rw [hline] at hlooks
      rcases hlooks with hcommand | ⟨rfl | rfl, rfl⟩
      · exact keeps_perform_of_looks hP hcommand files argument
      · exact keeps_goOn (setBreakpoint_empty ▸ keeps_listBreakpoints hP)
      · exact keeps_goOn (key_empty ▸ keeps_listKeys hP)

/-- A command that does more than look leaves the monitor as it was if it fails, but for
`setmem` and for frames that are run. -/
theorem eq_of_perform_error (hsound : m.console.Sound) {command : Command}
    (hlooks : command.looks = false) (hsetmem : command ≠ .setmem)
    (hframes : command = .run ∨ command = .resume →
      ∀ frames, 1 ≤ frames → numberOr 60 argument m ≠ .ok frames m) (files : Files)
    (h : perform files command argument m = .error fault after) : after = m := by
  -- a command that works either changes nothing before it can fail, or is set aside
  cases command with
  | load => exact eq_of_goOn_error (careful_load files argument m fault after) h
  | reset => exact eq_of_goOn_error (careful_reset files m fault after) h
  | step => exact eq_of_goOn_error (eq_of_step_error hsound) h
  | run => exact eq_of_goOn_error (eq_of_run_error (hframes (.inl rfl))) h
  | resume => exact eq_of_goOn_error (eq_of_run_error (hframes (.inr rfl))) h
  | bp => exact eq_of_goOn_error (careful_setBreakpoint argument m fault after) h
  | bpd => exact eq_of_goOn_error (careful_deleteBreakpoint argument m fault after) h
  | key => exact eq_of_goOn_error (careful_key argument m fault after) h
  | setmem => exact absurd rfl hsetmem
  | _ => cases hlooks

/-- A line that does more than look and asks for no frames changes nothing if it fails, but for
`setmem`. -/
theorem eq_of_execute_error (hsound : m.console.Sound)
    (hlooks : ¬ (MonitorLine.read line).Looks)
    (hsetmem : ∀ argument, MonitorLine.read line ≠ .command .setmem argument)
    (hframes : ∀ frames, ¬ AsksForFrames line frames) {files : Files}
    (h : execute files line m = .error fault after) : after = m := by
  cases hline : MonitorLine.read line with
  | blank => exact absurd (hline ▸ trivial) hlooks
  | unknown text => exact absurd (hline ▸ trivial) hlooks
  | command command argument =>
      have hworks : command.looks = false := by
        rw [hline] at hlooks
        exact Bool.eq_false_iff.mpr fun hcommand => hlooks (.inl hcommand)
      have hother : command ≠ .setmem := by
        rintro rfl
        exact hsetmem argument hline
      have hnone : command = .run ∨ command = .resume →
          ∀ frames, 1 ≤ frames → numberOr 60 argument m ≠ .ok frames m :=
        fun hcommand frames hpositive hnumber =>
          hframes frames (.of_numberOr hpositive hcommand hline hnumber)
      simp only [execute, hline] at h
      exact eq_of_perform_error hsound hworks hother hnone files h

/-! ## More frames than can be said -/

/-- A line that asks for frames, with their number written in base sixteen. -/
def runLine (frames : Int) : String := "run " ++ Hexadecimal.address frames

/-- No character of an address is a blank. -/
theorem not_isBlank_of_mem_address {n : Int} {c : Char}
    (hc : c ∈ (Hexadecimal.address n).toList) : isBlank c = false := by
  by_contra hblank
  rw [Bool.not_eq_false] at hblank
  refine Hexadecimal.not_mem_address ?_ ?_ ?_ n hc
  · rintro rfl
    exact absurd hblank (by decide)
  · rintro rfl
    exact absurd hblank (by decide)
  · rintro digit hdigit rfl
    have hdigits : ∀ digit < 16, isBlank (Nat.digitChar digit) = false := by decide
    rw [hdigits digit hdigit] at hblank
    cases hblank

theorem toList_address_ne_nil (n : Int) : (Hexadecimal.address n).toList ≠ [] := by
  obtain ⟨negative, digits, hwritten, -⟩ := Hexadecimal.exists_address_eq n
  rw [hwritten]
  simp

theorem read_runLine (frames : Int) :
    MonitorLine.read (runLine frames) = .command .run (Hexadecimal.address frames) := by
  have hline : runLine frames =
      String.ofList ("run".toList ++ ' ' :: (Hexadecimal.address frames).toList) := by
    apply String.toList_injective
    simp [runLine]
  rw [hline]
  exact MonitorLine.read_append (by decide) (by decide +kernel) (by decide)
    (toList_address_ne_nil frames)
    (fun _ hc => not_isBlank_of_mem_address (List.mem_of_head? hc))
    (fun _ hc => not_isBlank_of_mem_address (List.mem_of_getLast? hc))

/-- Every number of frames can be asked for. -/
theorem asksForFrames_runLine {frames : Int} (hframes : 1 ≤ frames) :
    AsksForFrames (runLine frames) frames := by
  have htrimmed : trimmed (Hexadecimal.address frames) = Hexadecimal.address frames := by
    rw [trimmed, trimmedBy_eq_self
      (fun _ hc => not_isBlank_of_mem_address (List.mem_of_head? hc))
      (fun _ hc => not_isBlank_of_mem_address (List.mem_of_getLast? hc)), String.ofList_toList]
  have hsome : Hexadecimal.address frames ≠ "" := by
    intro hempty
    have hne := toList_address_ne_nil frames
    rw [hempty] at hne
    exact hne rfl
  refine ⟨hframes, .run, _, .inl rfl, read_runLine frames, ?_⟩
  rw [htrimmed, if_neg hsome, readNumber, htrimmed, Hexadecimal.read_address]
  rfl

/-- Without breakpoints, so many frames are run that their number cannot be said. -/
theorem exists_execute_of_tooLarge {frames : Int}
    (hrunning : m.console.Running m.console.stepsPerFrame) (hbreakpoints : m.breakpoints = [])
    (hlimit : 10 ^ Numeral.decimalLimit ≤ frames.toNat) (hline : AsksForFrames line frames)
    (files : Files) :
    ∃ last, execute files line m = .error (.numeral .tooLarge) { m with console := last } ∧
      last.frames = m.console.frames + frames.toNat := by
  obtain ⟨redraws, last, hrun⟩ := hrunning.exists_run frames
  have hresult : framesWith m.breakpoints frames m.console = .ok none last := by
    rw [hbreakpoints]
    exact framesWith_nil hrun
  have hend : endLine frames last.machine.pc none = .error (.numeral .tooLarge) := by
    have habs : 10 ^ Numeral.decimalLimit ≤ frames.natAbs := by omega
    simp only [endLine, numeralOf_of_le habs]
    rfl
  refine ⟨last, ?_, (Console.counted_of_run hrun).1⟩
  rw [execute_of_asksForFrames hrunning.loaded files hline hresult, hend]

/-- **Lines that change nothing.**  A line that only looks changes nothing but what has been
printed, whatever its arguments are and whether it fails or not.  Any other line but `setmem`
changes nothing at all if it fails, unless it asks for so many frames that there is no
numeral for their number.  Such a line runs the frames first and fails when it says how many
there were, so that nothing changes but the console, which is where the frames have left
it. -/
theorem looking_and_failing_change_nothing {m : Monitor ρ} (hm : m.Reachable) (files : Files)
    (line : String) :
    ((MonitorLine.read line).Looks →
      ∃ printed, Attempt.after (execute files line) m = { m with printed := printed }) ∧
    ((∀ argument, MonitorLine.read line ≠ .command .setmem argument) →
      (∀ frames, AsksForFrames line frames → frames.toNat < 10 ^ Numeral.decimalLimit) →
      ∀ fault after, execute files line m = .error fault after →
        ∃ printed, after = { m with printed := printed } ∧
          (¬ (MonitorLine.read line).Looks → after = m)) ∧
    (∀ frames, AsksForFrames line frames →
      ∀ fault after, execute files line m = .error fault after →
        10 ^ Numeral.decimalLimit ≤ frames.toNat ∧
          ∃ hit last, framesWith m.breakpoints frames m.console = .ok hit last ∧
            after = { m with console := last }) := by
  have hlooking : (MonitorLine.read line).Looks →
      ∃ printed, Attempt.after (execute files line) m = { m with printed := printed } := by
    intro hlooks
    -- the property to be kept is that the output alone has changed
    let P : Monitor ρ → Prop := fun after => ∃ printed, after = { m with printed := printed }
    have hP : IgnoresOutput P := by
      rintro after more ⟨printed, rfl⟩
      exact ⟨more, rfl⟩
    exact keeps_of_looks hP files hlooks m ⟨m.printed, rfl⟩
  refine ⟨hlooking, ?_, fun frames hasks fault after => error_of_asksForFrames hm.sound hasks⟩
  intro hsetmem hfew fault after hfailed
  by_cases hlooks : (MonitorLine.read line).Looks
  · obtain ⟨printed, hprinted⟩ := hlooking hlooks
    simp only [Attempt.after, hfailed] at hprinted
    exact ⟨printed, hprinted, fun hnot => absurd hlooks hnot⟩
  -- a line that asks for so few frames does not fail
  · have hnone : ∀ frames, ¬ AsksForFrames line frames := by
      intro frames hasks
      exact absurd (error_of_asksForFrames hm.sound hasks hfailed).1 (Nat.not_le.mpr (hfew _ hasks))
    have hsame : after = m := eq_of_execute_error hm.sound hlooks hsetmem hnone hfailed
    exact ⟨m.printed, hsame, fun _ => hsame⟩

/-- A dump that starts in front of memory, a number of frames that is none, and one that has
no numeral. -/
theorem looking_and_failing_change_nothing_of_bad_arguments :
    ∃ c : Console Cycle, Console.assemble "schip" 10 false (.ofList [0]) = .ok c ∧
      let m := observing ((Move.load [0x12, 0x00]).after c)
      let files := Folder.empty.files
      let endless := runLine (10 ^ Numeral.decimalLimit : Nat)
      m.Reachable ∧ (MonitorLine.read "dump -0x2000").Looks ∧
        (∃ printed, Attempt.after (execute files "dump -0x2000") m =
          { m with printed := printed }) ∧
        (∃ cause after, execute files "run zz" m = .error (.numeral cause) after ∧ after = m) ∧
        ∃ after, execute files endless m = .error (.numeral .tooLarge) after ∧
          ∃ hit last,
            framesWith m.breakpoints (10 ^ Numeral.decimalLimit : Nat) m.console = .ok hit last ∧
              after = { m with console := last } := by
  have hassembled : Console.assemble "schip" 10 false (Cycle.ofList [0]) = .ok _ := rfl
  refine ⟨_, hassembled, ?_⟩
  intro m files endless
  have hreachable : m.Reachable :=
    .observing ((Console.sound_of_assemble hassembled).after (.load [0x12, 0x00])) none
  have hdump : MonitorLine.read "dump -0x2000" = .command .dump "-0x2000" := by
    decide +kernel
  have hrun : MonitorLine.read "run zz" = .command .run "zz" := by
    decide +kernel
  have hlooks : (MonitorLine.read "dump -0x2000").Looks := by
    rw [hdump]
    exact .inl rfl
  have hnumber : numberOr 60 "zz" m = .error (.numeral (.malformed .byMark "zz")) m := rfl
  have hfailed : execute files "run zz" m = .error (.numeral (.malformed .byMark "zz")) m := by
    have hready : ready m = .ok true m := rfl
    simp only [execute, hrun, perform, goOn, run, bind, EStateM.bind, hready, if_true, hnumber]
  have hother : ∀ argument, MonitorLine.read "run zz" ≠ .command .setmem argument := by
    intro argument hsetmem
    rw [hrun] at hsetmem
    cases hsetmem
  have hnone : ∀ frames, AsksForFrames "run zz" frames →
      frames.toNat < 10 ^ Numeral.decimalLimit := by
    intro frames hasks
    rw [(hasks.numberOr_eq hrun m).2] at hnumber
    cases hnumber
  have hworks : ¬ (MonitorLine.read "run zz").Looks := by
    rw [hrun]
    rintro (hcommand | ⟨hcommand | hcommand, -⟩)
    · cases hcommand
    · cases hcommand
    · cases hcommand
  have hasks : AsksForFrames endless (10 ^ Numeral.decimalLimit : Nat) :=
    asksForFrames_runLine (Int.ofNat_le.mpr (Nat.pow_pos (by decide)))
  have hrunning : m.console.Running m.console.stepsPerFrame := ⟨hreachable.sound, rfl, rfl⟩
  obtain ⟨ran, hendless, -⟩ :=
    exists_execute_of_tooLarge hrunning rfl (Nat.le_of_eq (Int.toNat_natCast _).symm) hasks files
  have hdumped := looking_and_failing_change_nothing hreachable files "dump -0x2000"
  have hran := looking_and_failing_change_nothing hreachable files "run zz"
  have hstayed := looking_and_failing_change_nothing hreachable files endless
  obtain ⟨printed, -, hsame⟩ := hran.2.1 hother hnone _ m hfailed
  exact ⟨hreachable, hlooks, hdumped.1 hlooks, ⟨_, m, hfailed, hsame hworks⟩, _, hendless,
    (hstayed.2.2 _ hasks _ _ hendless).2⟩

/-- A line that asks for `10 ^ 4300` frames, written in base sixteen, runs them all and then
fails: the console counts the frames. -/
theorem failing_run_leaves_frames_run :
    ∃ c : Console Cycle, Console.assemble "schip" 10 false (.ofList [0]) = .ok c ∧
      let m := observing ((Move.load [0x12, 0x00]).after c)
      let line := runLine (10 ^ Numeral.decimalLimit : Nat)
      m.Reachable ∧ (∃ argument, MonitorLine.read line = .command .run argument) ∧
        m.console.frames = 0 ∧
        ∃ after, execute Folder.empty.files line m = .error (.numeral .tooLarge) after ∧
          after.console.frames = 10 ^ Numeral.decimalLimit ∧ after.console.frames ≠ 0 := by
  have hassembled : Console.assemble "schip" 10 false (Cycle.ofList [0]) = .ok _ := rfl
  refine ⟨_, hassembled, ?_⟩
  intro m line
  have hreachable : m.Reachable :=
    .observing ((Console.sound_of_assemble hassembled).after (.load [0x12, 0x00])) none
  have hpositive : 0 < 10 ^ Numeral.decimalLimit := Nat.pow_pos (by decide)
  have hasks : AsksForFrames line (10 ^ Numeral.decimalLimit : Nat) :=
    asksForFrames_runLine (Int.ofNat_le.mpr hpositive)
  have hrunning : m.console.Running m.console.stepsPerFrame := ⟨hreachable.sound, rfl, rfl⟩
  have hcount : (((10 ^ Numeral.decimalLimit : Nat) : Int)).toNat = 10 ^ Numeral.decimalLimit :=
    Int.toNat_natCast _
  obtain ⟨last, hfailed, hframes⟩ :=
    exists_execute_of_tooLarge hrunning rfl (Nat.le_of_eq hcount.symm) hasks Folder.empty.files
  have hnone : m.console.frames = 0 := rfl
  -- the counter started at zero and is at the number of frames
  rw [hcount, hnone, Nat.zero_add] at hframes
  exact ⟨hreachable, ⟨_, read_runLine _⟩, hnone, _, hfailed, hframes,
    hframes ▸ Nat.ne_of_gt hpositive⟩

end Monitor

end SuperChip
