import SuperChip.Proofs.FailedLoads
import SuperChip.Proofs.SnapshotHistory

/-!
# Recorders that listen in each other's place

A console has one place for a frame listener.  A recorder that is started takes this place
and remembers who had it, and gives it back when it is stopped.  Where starts and stops are
nested like brackets, the memories of the recorders form a stack that no one has built:
the place is always with the recorder that was started last among those that still
listen, all changed pictures go to it and to nobody else, and behind the last bracket the
place is where it was before the first.

## Strategy

`Linked` reads the stack off the recorders: from the listener down to the original one,
each recorder has replaced the next.  A start puts a link on top and a stop takes the top
link away; neither touches the links below, as these belong to other recorders
(`Stacked.start`, `Stacked.stop`).  Nothing else that a host can do moves a listener
(`SamePlaces`), so that the stack follows the brackets (`Nested.stacked`).  Who hears of
the end of a frame is said once, for any console (`Moment.deliversTo`).
-/

namespace SuperChip

/-! ## What may happen between the brackets -/

/-- What may be asked of a console besides starting and stopping its recorders. -/
inductive Operation where
  | request (request : Request)
  | loadFile (files : Files) (path : String)
  /-- An action on the engine alone. -/
  | action (action : HostAction)

/-- What a host does with a console and its recorders. -/
inductive Activity where
  | operation (operation : Operation)
  | start (id : Nat)
  | stop (id : Nat)

/-- Activities in which starts and stops of recorders are nested: a stop belongs to the
recorder that was started last among those that listen, and no recorder is started while it
listens.  The lists are the recorders that listen before the activities and after them, the
last one that was started at the front. -/
inductive Nested : List Nat → List Activity → List Nat → Prop
  | nil (started : List Nat) : Nested started [] started
  | operation {started last : List Nat} {rest : List Activity} (operation : Operation)
      (hrest : Nested started rest last) : Nested started (.operation operation :: rest) last
  | start {started last : List Nat} {rest : List Activity} {id : Nat} (hnew : id ∉ started)
      (hrest : Nested (id :: started) rest last) : Nested started (.start id :: rest) last
  | stop {started last : List Nat} {rest : List Activity} {id : Nat}
      (hrest : Nested started rest last) : Nested (id :: started) (.stop id :: rest) last

/-- Nested activities are nested up to any point. -/
theorem Nested.cut {started last : List Nat} {earlier later : List Activity}
    (h : Nested started (earlier ++ later) last) :
    ∃ middle, Nested started earlier middle ∧ Nested middle later last := by
  -- each activity in front of the cut keeps the nesting of what follows
  induction earlier generalizing started with
  | nil => exact ⟨started, .nil started, h⟩
  | cons first rest ih =>
      cases h with
      | operation operation hrest =>
          obtain ⟨middle, hearlier, hlater⟩ := ih hrest
          exact ⟨middle, .operation operation hearlier, hlater⟩
      | start hnew hrest =>
          obtain ⟨middle, hearlier, hlater⟩ := ih hrest
          exact ⟨middle, .start hnew hearlier, hlater⟩
      | stop hrest =>
          obtain ⟨middle, hearlier, hlater⟩ := ih hrest
          exact ⟨middle, .stop hearlier, hlater⟩

/-- The activities determine which recorders listen behind them. -/
theorem Nested.unique {started last last' : List Nat} {activities : List Activity}
    (h : Nested started activities last) (h' : Nested started activities last') : last = last' := by
  induction h with
  | nil started =>
      cases h'
      rfl
  | operation operation hrest ih =>
      cases h' with
      | operation _ hrest' => exact ih hrest'
  | start hnew hrest ih =>
      cases h' with
      | start _ hrest' => exact ih hrest'
  | stop hrest ih =>
      cases h' with
      | stop hrest' => exact ih hrest'

/-- The listener that was started last among those that listen, or the original one. -/
def innermost (original : FrameListener) : List Nat → FrameListener
  | [] => original
  | id :: _ => .recorder id

variable {ρ : Type} [Generator ρ]

/-- The console after an operation, whether it fails or not. -/
def Operation.after (c : Console ρ) : Operation → Console ρ
  | .request asked => asked.after c
  | .loadFile files path => Attempt.after (Console.loadFrom files path) c
  | .action performed => { c with engine := c.engine.after performed }

/-- The console after an activity. -/
def Activity.after (c : Console ρ) : Activity → Console ρ
  | .operation performed => performed.after c
  | .start id => c.startRecorder id
  | .stop id => c.stopRecorder id

/-- The console after some activities. -/
def Console.afterActivities (c : Console ρ) : List Activity → Console ρ
  | [] => c
  | activity :: rest => (activity.after c).afterActivities rest

/-! ## Who hears of a changed picture -/

/-- At a moment, a listener has the place, and it alone hears of a changed picture: if it
is a recorder, this recorder records the picture and no other one does, and the host
receives a signal only if it listens itself.  Without a changed picture nobody hears
anything. -/
structure Moment.DeliversTo (moment : Moment ρ) (listener : FrameListener) : Prop where
  place : moment.before.frameListener = listener
  recorders : ∀ id, moment.after.recorders[id]? =
    moment.before.recorders[id]?.map fun recorder =>
      if moment.redraws = true ∧ listener = .recorder id then
        recorder.record moment.after.machine.framePixels
      else recorder
  signals : moment.after.signals.toList.filter (fun signal => !signal.isBeep) =
    moment.before.signals.toList.filter (fun signal => !signal.isBeep) ++
      if moment.redraws then listener.heard moment.after.frames else []

namespace Console

omit [Generator ρ] in
/-- At the end of a frame each recorder is as it was, but for the one that listens. -/
theorem getElem?_recorders_frameEnded (c : Console ρ) (id : Nat) :
    c.frameEnded.2.recorders[id]? =
      c.recorders[id]?.map fun recorder =>
        if c.machine.redraw = true ∧ c.frameListener = .recorder id then
          recorder.record c.machine.framePixels
        else recorder := by
  rw [frameEnded_eq]
  -- the end of a frame concerns the listening recorder only, and only with a new picture
  by_cases hredraw : c.machine.redraw = true
  · cases hlistener : c.frameListener with
    | none => simp [hredraw, recordersHearing, hlistener]
    | host => simp [hredraw, recordersHearing, hlistener]
    | recorder listening =>
        simp only [hredraw, recordersHearing, hlistener, if_true, Array.getElem?_modify, true_and,
          FrameListener.recorder.injEq]
        by_cases hsame : listening = id
        · simp [hsame]
        · simp [hsame]
  · simp [hredraw]

end Console

theorem Move.signals_after {move : Move} (hmove : move ≠ .closeFrame) (c : Console ρ) :
    (move.after c).signals = c.signals := by
  cases move with
  | load program =>
      by_cases hfits : program.length ≤ programLimit
      · rw [after_load_of_fits c hfits]
      · rw [after_load_of_too_large c (by omega)]
  | holdKey key pressed =>
      obtain ⟨keypad, hkeypad⟩ := after_holdKey c key pressed
      rw [hkeypad]
  | releaseKeys => rw [after_releaseKeys]
  | step =>
      by_cases hloaded : c.loaded = true
      · rw [after_step_of_loaded c hloaded]
      · rw [after_step_of_not_loaded c (by simpa using hloaded)]
  | closeFrame => exact absurd rfl hmove

/-- The listener that has the place is the one that hears. -/
theorem Moment.deliversTo (moment : Moment ρ) :
    moment.DeliversTo moment.before.frameListener := by
  obtain ⟨c, move⟩ := moment
  -- only the end of a frame delivers anything
  by_cases hmove : move = .closeFrame
  · subst hmove
    have hafter : (Moment.mk c .closeFrame).after = c.frameEnded.2 := rfl
    have hframes : c.frameEnded.2.frames = c.frames + 1 := by rw [Console.frameEnded_eq]
    refine ⟨rfl, fun id => ?_, ?_⟩
    · rw [hafter, c.framePixels_frameEnded, redraws_closeFrame]
      exact c.getElem?_recorders_frameEnded id
    · have hsignals : c.frameEnded.2.signals.toList = c.signals.toList ++ c.heardAtEnd := by
        rw [Console.frameEnded_eq, Array.toList_append]
      rw [hafter, hsignals, List.filter_append, c.filter_not_heardAtEnd, redraws_closeFrame,
        hframes]
  · have hafter : (Moment.mk c move).after = move.after c := rfl
    have hquiet := move.quiet_after hmove c
    refine ⟨rfl, fun id => ?_, ?_⟩
    · rw [hafter, hquiet.recorders, redraws_of_ne hmove]
      simp
    · rw [hafter, Move.signals_after hmove, redraws_of_ne hmove, if_neg Bool.false_ne_true,
        List.append_nil]

/-! ## What moves no listener -/

namespace Console

section

variable {ρ : Type} {c d e : Console ρ}

/-- The listener that a recorder remembers. -/
def replaced? (c : Console ρ) (id : Nat) : Option FrameListener :=
  c.recorders[id]?.map Recorder.replaced

/-- The place of the listener and the memories of the recorders are as they were. -/
structure SamePlaces (before after : Console ρ) : Prop where
  frameListener : after.frameListener = before.frameListener
  size : after.recorders.size = before.recorders.size
  replaced? : ∀ id, after.replaced? id = before.replaced? id

theorem SamePlaces.of_eq (hlistener : d.frameListener = c.frameListener)
    (hrecorders : d.recorders = c.recorders) : SamePlaces c d where
  frameListener := hlistener
  size := by rw [hrecorders]
  replaced? id := by rw [Console.replaced?, hrecorders, Console.replaced?]

theorem SamePlaces.trans (h : SamePlaces c d) (h' : SamePlaces d e) : SamePlaces c e where
  frameListener := h'.frameListener.trans h.frameListener
  size := h'.size.trans h.size
  replaced? id := (h'.replaced? id).trans (h.replaced? id)

theorem size_recordersHearing (c : Console ρ) : c.recordersHearing.size = c.recorders.size := by
  unfold recordersHearing
  split
  · exact Array.size_modify
  · rfl

/-- A recorder that keeps a frame remembers the same listener. -/
theorem samePlaces_frameEnded (c : Console ρ) : SamePlaces c c.frameEnded.2 where
  frameListener := by rw [frameEnded_eq]
  size := by
    simp only [frameEnded_eq]
    split
    · exact c.size_recordersHearing
    · rfl
  replaced? id := by
    rw [replaced?, getElem?_recorders_frameEnded, Option.map_map, replaced?]
    congr 1
    funext recorder
    simp only [Function.comp_apply]
    split <;> rfl

end

end Console

theorem Move.samePlaces_after (move : Move) (c : Console ρ) :
    c.SamePlaces (move.after c) := by
  by_cases hmove : move = .closeFrame
  · subst hmove
    exact c.samePlaces_frameEnded
  · have hquiet := move.quiet_after hmove c
    exact .of_eq hquiet.frameListener hquiet.recorders

theorem Path.samePlaces {c d : Console ρ} {path : List (Moment ρ)} (h : Path c path d) :
    c.SamePlaces d := by
  induction h with
  | nil c => exact .of_eq rfl rfl
  | @cons c d move rest hrest ih => exact (move.samePlaces_after c).trans ih

/-- What a load from a file comes to: a load, or nothing at all. -/
theorem Console.after_loadFrom (c : Console ρ) (files : Files) (path : String) :
    (∃ program, Attempt.after (loadFrom files path) c = (Move.load program).after c) ∨
      Attempt.after (loadFrom files path) c = c := by
  cases hfile : readFile files path with
  | ok program =>
      refine .inl ⟨program, ?_⟩
      rw [Attempt.after, loadFrom_of_ok hfile]
      rfl
  | error fault =>
      refine .inr ?_
      rw [Attempt.after, loadFrom_of_error hfile]

/-- No operation moves a listener. -/
theorem Operation.samePlaces_after (operation : Operation) (c : Console ρ) :
    c.SamePlaces (operation.after c) := by
  cases operation with
  | request asked => exact (path_history c [asked]).samePlaces
  | loadFile files path =>
      rcases c.after_loadFrom files path with ⟨program, hload⟩ | hsame
      · rw [Operation.after, hload]
        exact (Move.load program).samePlaces_after c
      · rw [Operation.after, hsame]
        exact .of_eq rfl rfl
  | action performed => exact .of_eq rfl rfl

/-- Nobody hears of an operation that is not a request. -/
theorem Operation.silent_after {operation : Operation}
    (hoperation : ∀ asked, operation ≠ .request asked) (c : Console ρ) :
    (operation.after c).recorders = c.recorders ∧ (operation.after c).signals = c.signals := by
  cases operation with
  | request asked => exact absurd rfl (hoperation asked)
  | loadFile files path =>
      rcases c.after_loadFrom files path with ⟨program, hload⟩ | hsame
      · rw [Operation.after, hload]
        have hquiet : Move.load program ≠ .closeFrame := by simp
        exact ⟨(Move.quiet_after hquiet c).recorders, Move.signals_after hquiet c⟩
      · rw [Operation.after, hsame]
        exact ⟨rfl, rfl⟩
  | action performed => exact ⟨rfl, rfl⟩

/-! ## The stack of the recorders -/

namespace Console

section

variable {ρ : Type} {c d : Console ρ} {original : FrameListener} {started : List Nat} {id : Nat}

/-- Each of the recorders remembers the next one, and the last one the original listener. -/
def Linked (c : Console ρ) (original : FrameListener) : List Nat → Prop
  | [] => True
  | id :: rest => c.replaced? id = some (innermost original rest) ∧ c.Linked original rest

/-- The recorders that listen are a stack, and the one on top has the place. -/
structure Stacked (c : Console ρ) (original : FrameListener) (started : List Nat) : Prop where
  frameListener : c.frameListener = innermost original started
  linked : c.Linked original started
  nodup : started.Nodup

theorem Linked.lt_size (h : c.Linked original started) : ∀ id ∈ started, id < c.recorders.size := by
  induction started with
  | nil => simp
  | cons id rest ih =>
      obtain ⟨recorder, hrecorder, -⟩ := Option.map_eq_some_iff.mp h.1
      obtain ⟨hid, -⟩ := Array.getElem?_eq_some_iff.mp hrecorder
      simpa [hid] using ih h.2

/-- The links depend on nothing but what the recorders themselves remember. -/
theorem Linked.congr (h : c.Linked original started)
    (hreplaced : ∀ id ∈ started, d.replaced? id = c.replaced? id) : d.Linked original started := by
  induction started with
  | nil => trivial
  | cons id rest ih =>
      refine ⟨(hreplaced id List.mem_cons_self).trans h.1, ih h.2 fun other hother => ?_⟩
      exact hreplaced other (List.mem_cons_of_mem _ hother)

theorem Stacked.of_samePlaces (h : c.Stacked original started) (hsame : SamePlaces c d) :
    d.Stacked original started where
  frameListener := hsame.frameListener.trans h.frameListener
  linked := h.linked.congr fun id _ => hsame.replaced? id
  nodup := h.nodup

theorem size_startRecorder (c : Console ρ) (id : Nat) :
    (c.startRecorder id).recorders.size = c.recorders.size := by
  simp [startRecorder]

theorem replaced?_startRecorder_of_ne (c : Console ρ) {other : Nat} (hother : other ≠ id) :
    (c.startRecorder id).replaced? other = c.replaced? other := by
  simp [replaced?, startRecorder, Array.getElem?_modify, Ne.symm hother]

theorem replaced?_startRecorder_self (c : Console ρ) (hid : id < c.recorders.size) :
    (c.startRecorder id).replaced? id = some c.frameListener := by
  have hrecorder := Array.getElem?_eq_getElem hid
  simp only [replaced?, startRecorder, Array.getElem?_modify, if_true, hrecorder, Option.map_some]

/-- A recorder that is started remembers the one that had been on top. -/
theorem Stacked.start (h : c.Stacked original started) (hnew : id ∉ started)
    (hid : id < c.recorders.size) : (c.startRecorder id).Stacked original (id :: started) where
  frameListener := rfl
  linked := by
    refine ⟨?_, h.linked.congr fun other hother => ?_⟩
    · rw [c.replaced?_startRecorder_self hid, h.frameListener]
    · refine c.replaced?_startRecorder_of_ne ?_
      rintro rfl
      exact hnew hother
  nodup := List.nodup_cons.mpr ⟨hnew, h.nodup⟩

/-- A recorder that is stopped gives the place back to the one that it remembers. -/
theorem stopRecorder_of_replaced {listener : FrameListener}
    (hreplaced : c.replaced? id = some listener) :
    c.stopRecorder id =
      { c with
        frameListener := listener
        recorders := c.recorders.modify id fun r => { r with replaced := .none } } := by
  obtain ⟨recorder, hrecorder, rfl⟩ := Option.map_eq_some_iff.mp hreplaced
  simp only [stopRecorder, hrecorder]

theorem size_stopRecorder (c : Console ρ) (id : Nat) :
    (c.stopRecorder id).recorders.size = c.recorders.size := by
  unfold stopRecorder
  split
  · exact Array.size_modify
  · rfl

/-- A recorder that is stopped leaves the recorders below it on the stack alone. -/
theorem Stacked.stop (h : c.Stacked original (id :: started)) :
    (c.stopRecorder id).Stacked original started := by
  obtain ⟨hreplaced, hrest⟩ := h.linked
  -- no link below belongs to this recorder, which forgets the one that it has replaced
  obtain ⟨hid, hnodup⟩ := List.nodup_cons.mp h.nodup
  rw [stopRecorder_of_replaced hreplaced]
  refine ⟨rfl, hrest.congr fun other hother => ?_, hnodup⟩
  have hother' : id ≠ other := by
    rintro rfl
    exact hid hother
  simp [replaced?, Array.getElem?_modify, hother']

end

end Console

theorem Activity.size_after (activity : Activity) (c : Console ρ) :
    (activity.after c).recorders.size = c.recorders.size := by
  cases activity with
  | operation performed => exact (performed.samePlaces_after c).size
  | start id => exact c.size_startRecorder id
  | stop id => exact c.size_stopRecorder id

/-- The stack of the recorders follows the brackets. -/
theorem Nested.stacked {started last : List Nat} {activities : List Activity}
    (h : Nested started activities last) {c : Console ρ} {original : FrameListener}
    (hstacked : c.Stacked original started)
    (hrecorders : ∀ id, .start id ∈ activities → id < c.recorders.size) :
    (c.afterActivities activities).Stacked original last := by
  -- operations leave the places alone; starting and stopping move the top of the stack
  induction h generalizing c with
  | nil started => exact hstacked
  | operation performed hrest ih =>
      refine ih (hstacked.of_samePlaces (performed.samePlaces_after c)) fun id hid => ?_
      rw [Activity.size_after]
      exact hrecorders id (List.mem_cons_of_mem _ hid)
  | start hnew hrest ih =>
      refine ih (hstacked.start hnew (hrecorders _ List.mem_cons_self)) fun id hid => ?_
      rw [Activity.size_after]
      exact hrecorders id (List.mem_cons_of_mem _ hid)
  | stop hrest ih =>
      refine ih hstacked.stop fun id hid => ?_
      rw [Activity.size_after]
      exact hrecorders id (List.mem_cons_of_mem _ hid)

namespace Console

/-- **Recorders listen in each other's place.**  Start and stop recorders of a console like
brackets, with any operations in between.  At the end the place is with the listener that
had it before.  At every point it is with the recorder that was started last among those
that listen, or with the original listener if there is none: at each moment of any request
there, this one hears of a changed picture and nobody else does.  Of the other operations
nobody hears anything. -/
theorem listeners_nest (c : Console ρ) {activities : List Activity}
    (hnested : Nested [] activities [])
    (hrecorders : ∀ id, .start id ∈ activities → id < c.recorders.size) :
    (c.afterActivities activities).frameListener = c.frameListener ∧
    ∀ earlier later, activities = earlier ++ later →
      let now := c.afterActivities earlier
      ∃ started, Nested [] earlier started ∧ (∀ id ∈ started, id < now.recorders.size) ∧
        now.frameListener = innermost c.frameListener started ∧
        (∀ request, ∀ moment ∈ now.history [request],
          moment.DeliversTo (innermost c.frameListener started)) ∧
        ∀ operation : Operation, (∀ request, operation ≠ .request request) →
          (operation.after now).recorders = now.recorders ∧
          (operation.after now).signals = now.signals := by
  have hstacked : c.Stacked c.frameListener [] := ⟨rfl, trivial, List.nodup_nil⟩
  refine ⟨(hnested.stacked hstacked hrecorders).frameListener, ?_⟩
  rintro earlier later rfl now
  obtain ⟨started, hearlier, -⟩ := hnested.cut
  -- the activities in front of the point are nested themselves, as far as they go
  have hnow : now.Stacked c.frameListener started :=
    hearlier.stacked hstacked fun id hid => hrecorders id (List.mem_append_left _ hid)
  refine ⟨started, hearlier, hnow.linked.lt_size, hnow.frameListener, ?_, ?_⟩
  · intro request moment hmoment
    obtain ⟨before, behind, hhistory⟩ := List.append_of_mem hmoment
    have hpath := path_history now [request]
    rw [hhistory] at hpath
    -- the moments of the request in front of this one have moved no listener
    have hplace : moment.before.frameListener = innermost c.frameListener started :=
      hpath.cut.1.samePlaces.frameListener.trans hnow.frameListener
    exact hplace ▸ moment.deliversTo
  · intro operation hoperation
    exact operation.silent_after hoperation now

/-- Two recorders listen one inside the other, in the place of the host, while a program
switches the resolution, an instruction a frame: the inner one hears of one frame, the
outer one of a frame before and a frame behind it, and the host of the last one. -/
theorem listeners_nest_around_frames :
    ∃ c : Console Cycle, assemble "schip" 1 true (.ofList [7]) = .ok c ∧
      let program : List UInt8 := [0x00, 0xFF, 0x00, 0xFE, 0x00, 0xFF, 0x00, 0xFE]
      let listening := { (Move.load program).after c with frameListener := .host }
      let both := (listening.addRecorder 0).addRecorder 0
      let frame : Activity := .operation (.request .advanceFrame)
      let around : List Activity := [.start 0, frame, .start 1]
      let activities := around ++ [.operation (.request (.run 1)), .stop 1, frame, .stop 0, frame]
      let inside := both.afterActivities around
      let done := both.afterActivities activities
      Nested [] activities [] ∧ (∀ id, .start id ∈ activities → id < both.recorders.size) ∧
        done.frameListener = .host ∧ inside.frameListener = .recorder 1 ∧
        (∀ moment ∈ inside.history [.run 1], moment.DeliversTo (.recorder 1)) ∧
        done.recorders.toList.map (fun recorder => recorder.snapshots.length) = [2, 1] ∧
        done.signals = #[.frame 4] := by
  refine ⟨_, rfl, ?_⟩
  intro program listening both frame around activities inside done
  have houtside : Nested [0] [.stop 0, frame] [] := .stop (.operation _ (.nil []))
  have hnested : Nested [] activities [] :=
    .start (by simp) (.operation _ (.start (by simp) (.operation _ (.stop (.operation _
      houtside)))))
  have hrecorders : ∀ id, .start id ∈ activities → id < both.recorders.size := by
    intro id hid
    have hsize : both.recorders.size = 2 := rfl
    have hstarted : id = 0 ∨ id = 1 := by simpa [activities, around, frame] using hid
    omega
  obtain ⟨hdone, hpoints⟩ := listeners_nest both hnested hrecorders
  obtain ⟨started, haround, -, hplace, hdelivers, -⟩ := hpoints around _ rfl
  obtain rfl : started = [1, 0] :=
    haround.unique (.start (by simp) (.operation _ (.start (by simp) (.nil _))))
  obtain ⟨hsnapshots, hsignals⟩ :
      done.recorders.toList.map (fun recorder => recorder.snapshots.length) = [2, 1] ∧
        done.signals = #[.frame 4] := by
    decide +kernel
  exact ⟨hnested, hrecorders, hdone, hplace, hdelivers _, hsnapshots, hsignals⟩

end Console

end SuperChip
