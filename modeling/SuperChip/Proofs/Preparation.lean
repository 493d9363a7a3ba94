import SuperChip.CommandLine.Run
import SuperChip.Proofs.Numerals
import SuperChip.Proofs.SideBySide

/-!
# From the command line to the first frame

A command line is read argument by argument, and what holds of the settings it
starts with and is kept by each of its options holds of the settings it ends with.
So a number of frames that a command line gives is a decimal numeral, which is short
enough to be written again (`Settings.ofArguments_writable`).

A program that opens and fits is then loaded into a console for the settings, in
every mode but the one that only lists it.  This console depends on the variant, the
number of steps in a frame and the seed; strictness, which it knows as well, is
nothing that a run looks at.
-/

namespace SuperChip

/-- A result, if there is one, has a property. -/
def Yields {ε α : Type} (P : α → Prop) (result : Except ε α) : Prop :=
  ∀ value, result = .ok value → P value

namespace Yields

variable {ε α β : Type} {P : α → Prop} {Q : β → Prop}

theorem ok {value : α} (h : P value) : Yields P (.ok value : Except ε α) := by
  rintro _ ⟨⟩
  exact h

theorem error (cause : ε) : Yields P (.error cause : Except ε α) := by
  rintro _ ⟨⟩

theorem bind {first : Except ε α} {next : α → Except ε β} (h : Yields P first)
    (hnext : ∀ value, P value → Yields Q (next value)) : Yields Q (first >>= next) := by
  intro result hresult
  cases first with
  | ok value => exact hnext value (h value rfl) result hresult
  | error cause => cases hresult

/-- Nothing is asked of the first result. -/
theorem bind_any {first : Except ε α} {next : α → Except ε β}
    (hnext : ∀ value, Yields Q (next value)) : Yields Q (first >>= next) :=
  bind (P := fun _ => True) (fun _ _ => trivial) fun value _ => hnext value

end Yields

/-! ## Reading the settings -/

/-- The number of frames can be written, if it is given. -/
def Settings.Writable (settings : Settings) : Prop :=
  ∀ frames, settings.frames = .given frames → Numeral.write frames = .ok (toString frames)

theorem Settings.writable_default : Settings.default.Writable := by
  intro frames hframes
  have hread : Numeral.read .decimal "600" = .ok frames := by
    cases hframes
    rfl
  exact Numeral.write_of_read hread

namespace Reading

/-- The settings of a reading, as far as it has come. -/
def Writable (reading : Reading) : Prop := reading.settings.Writable

variable {reading : Reading}

theorem writable_chooseMode (h : reading.Writable) (option : OptionName) (mode : Mode) :
    Yields Writable (reading.chooseMode option mode) := by
  unfold chooseMode
  split
  · exact .error _
  · exact .ok h

theorem writable_takeFlag (h : reading.Writable) (option : OptionName) :
    Yields Writable (reading.takeFlag option) := by
  unfold takeFlag
  split
  · exact .error _
  · exact .ok h
  · exact .ok h
  · exact writable_chooseMode h _ _
  · exact .ok h

theorem writable_takeFlags (h : reading.Writable) (options : List OptionName) :
    Yields Writable (reading.takeFlags options) := by
  induction options generalizing reading with
  | nil => exact .ok h
  | cons option rest ih => exact .bind (writable_takeFlag h option) fun next hnext => ih hnext

/-- A number that is read as a value can be written. -/
theorem writable_valueOf (option : OptionName) (text : String) :
    Yields (fun value => ∀ number, value = .given number →
      Numeral.write number = .ok (toString number)) (valueOf (integer option) text) := by
  unfold valueOf integer
  split
  · exact .ok nofun
  · cases hread : Numeral.read .decimal text with
    | error cause => exact .error _
    | ok value =>
        refine .ok ?_
        rintro number ⟨⟩
        exact Numeral.write_of_read hread

theorem writable_takeValue (h : reading.Writable) (option : OptionName) (text : String) :
    Yields Writable (reading.takeValue option text) := by
  cases option with
  | frames => exact .bind (writable_valueOf .frames text) fun frames hframes => .ok hframes
  | variant => exact .bind_any fun variant => .ok h
  | cycles => exact .bind_any fun cycles => .ok h
  | scale => exact .bind_any fun scale => .ok h
  | seed => exact .bind_any fun seed => .ok h
  | _ => exact .ok h

theorem writable_takeAll (h : reading.Writable) (placed : Bool) (arguments : List Argument) :
    Yields Writable (reading.takeAll placed arguments) := by
  fun_induction takeAll reading placed arguments with
  | case1 => exact .ok h
  | case2 reading placed text rest hsome ih => exact ih h
  | case3 reading placed text rest hnone ih => exact ih h
  | case4 reading placed rest hlone ih => exact ih h
  | case5 reading placed rest hplaced ih => exact ih h
  | case6 reading placed text rest ih => exact ih h
  | case7 reading placed name short hvalue text rest ih =>
      exact .bind (writable_takeValue h name text) fun next hnext => ih next hnext
  | case8 => exact .error _
  | case9 reading placed name short rest hflag ih =>
      exact .bind (writable_takeFlag h name) fun next hnext => ih next hnext
  | case10 reading placed name short text rest hvalue ih =>
      exact .bind (writable_takeValue h name text) fun next hnext => ih next hnext
  | case11 => exact .error _
  | case12 reading placed name short text rest hflag options hoptions ih =>
      exact .bind (writable_takeFlags h options) fun next hnext => ih next hnext

end Reading

theorem Settings.writable_ofArguments (arguments : List String) :
    Yields Writable (ofArguments arguments) := by
  unfold ofArguments
  split
  · exact .error _
  · have hstart : Reading.start.Writable := writable_default
    refine .bind (Reading.writable_takeAll hstart false _) fun reading h => ?_
    split
    · exact .ok h
    · exact .error _

/-! ## Opening the program -/

/-- Settings that open a program, for a variant, with a number of steps in a frame
and a seed. -/
structure Settings.Opens (settings : Settings) (path : String) (variant : Variant)
    (cycles seed : Int) : Prop where
  rom : settings.rom = some path
  variant : settings.variant = .given variant
  cycles : settings.cycles = .given cycles
  seed : settings.seed = some (.given seed)

namespace Console

theorem exists_assemble {ρ : Type} (variant : Variant) {cycles : Int} (hcycles : 1 ≤ cycles)
    (strict : Bool) (random : ρ) :
    ∃ c, Console.assemble variant.name cycles strict random = .ok c := by
  have hname : Variant.ofName variant.name = .ok variant := by cases variant <;> rfl
  have hpositive : 0 < cycles := by omega
  rw [assemble, dif_pos hpositive, hname]
  exact ⟨_, rfl⟩

/-- Whether a console is strict makes no difference for its runs. -/
theorem together_of_assemble {ρ : Type} [Generator ρ] {name : String} {cycles : Int}
    {strict strict' : Bool} {random : ρ} {c d : Console ρ}
    (hc : assemble name cycles strict random = .ok c)
    (hd : assemble name cycles strict' random = .ok d) : Together c d := by
  unfold assemble at hc hd
  by_cases hpositive : 0 < cycles
  · rw [dif_pos hpositive] at hc hd
    cases hname : Variant.ofName name with
    | ok variant =>
        rw [hname] at hc hd
        cases hc
        cases hd
        exact ⟨⟨rfl, rfl, fun _ => rfl⟩, rfl, rfl, rfl, rfl, rfl, rfl⟩
    | error fault =>
        rw [hname] at hc
        cases hc
  · rw [dif_neg hpositive] at hc
    cases hc

end Console

namespace Run

/-- With a program that opens and fits, a run is ready with a console in which it has
been loaded. -/
theorem exists_ready {settings : Settings} {path : String} {variant : Variant} {cycles seed : Int}
    (hopens : settings.Opens path variant cycles seed) (hmode : settings.mode ≠ .disassemble)
    (hcycles : 1 ≤ cycles) {files : Files} {program : List UInt8}
    (hfile : Console.readFile files path = .ok program) (hfits : program.length ≤ programLimit) :
    ∃ c, Console.assemble variant.name cycles settings.strict (Twister.ofSeed seed) = .ok c ∧
      ∀ random, ready settings files random =
        .ok ((Move.load program).after c, Transcript.empty.say
          (loadedLine ((Move.load program).after c) path program.length)) := by
  obtain ⟨c, hassembled⟩ :=
    Console.exists_assemble variant hcycles settings.strict (Twister.ofSeed seed)
  refine ⟨c, hassembled, ?_⟩
  intro random
  have hconsole : assemble settings cycles (Twister.ofSeed seed) = .ok c := by
    rw [assemble, hopens.variant]
    simp only [hassembled]
    rfl
  have hrandom : randomSource settings random = .ok (Twister.ofSeed seed) := by
    rw [randomSource, hopens.seed]
    rfl
  have hneeded : needed .cycles settings.cycles = .ok cycles := by
    rw [hopens.cycles]
    rfl
  have hload : Console.load program c = .ok () ((Move.load program).after c) := by
    rw [Console.load_of_fits c hfits, Move.after_load_of_fits c hfits]
  have hprogram : Run.program files settings = .ok program := by
    rw [Run.program, hopens.rom]
    exact hfile
  have hrom : ¬ (settings.rom = none ∧ settings.mode ≠ .monitor) := by
    rintro ⟨hnone, -⟩
    rw [hopens.rom] at hnone
    cases hnone
  rw [ready, if_neg hrom, hprogram]
  simp only [if_neg hmode, prepare, hrandom, hneeded, bind, Except.bind, hconsole, hopens.rom,
    hload]

end Run

end SuperChip
