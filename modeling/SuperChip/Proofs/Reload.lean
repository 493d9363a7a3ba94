import Mathlib.Data.List.Basic
import SuperChip.Proofs.FailedLoads

/-!
# A reset loads the recorded path

The monitor keeps the path of the program that it loaded last.  `reset` writes the path as
one word and hands it to the command that loads; since the word is read as this path again,
whatever characters it has, a reset does what every line does that loads the path.

## Strategy

That a quoted text splits into itself is a fact about the reader of words
(`ShellWords.split_quote`), and with it a reset comes to `loadPath` (`reset_eq_loadPath`),
of which the outcome is known for a file of each kind.  What is left is that there is a
line that loads the path: the quoted path behind the name of the command.  The monitor
takes blanks away at both ends of an argument (`MonitorLine.read_append`), and a quoted
text has none there (`ends_quoteChars`).
-/

namespace SuperChip

/-! ## Lines of a name and an argument -/

theorem toNat_of_isAlphanum {c : Char} (h : c.isAlphanum = true) :
    0x30 ≤ c.toNat ∧ c.toNat ≤ 0x7A := by
  have hranges : ((decide (0x41 ≤ c.val ∧ c.val ≤ 0x5A) ||
      (decide (0x61 ≤ c.val) && decide (c.val ≤ 0x7A))) ||
      (decide (0x30 ≤ c.val) && decide (c.val ≤ 0x39))) = true := h
  simp only [Bool.or_eq_true, Bool.and_eq_true, decide_eq_true_eq, UInt32.le_iff_toNat_le,
    UInt32.reduceToNat, Char.toNat_val] at hranges
  omega

namespace ShellWords

theorem not_isBlank_of_isHarmless {c : Char} (h : isHarmless c = true) : isBlank c = false := by
  rw [isHarmless, Bool.or_eq_true, List.contains_iff_mem] at h
  rcases h with halphanum | hsymbol
  · have hrange := toNat_of_isAlphanum halphanum
    simp only [isBlank, CodeRange.anyContains, blankRanges, CodeRange.contains, List.any_cons,
      List.any_nil, Bool.or_eq_false_iff, Bool.and_eq_false_iff, decide_eq_false_iff_not, and_true]
    omega
  · have hall : ("_@%+=:,./-".toList.all fun c => !isBlank c) = true := by decide +kernel
    simpa using List.all_eq_true.mp hall c hsymbol

/-- A quoted text neither starts nor ends with a blank. -/
theorem ends_quoteChars (text : List Char) :
    quoteChars text ≠ [] ∧ (∀ c ∈ (quoteChars text).head?, isBlank c = false) ∧
      ∀ c ∈ (quoteChars text).getLast?, isBlank c = false := by
  have hmark : isBlank singleQuote = false := by decide
  unfold quoteChars
  split
  · simp [hmark]
  · split
    · rename_i hnonempty hharmless
      have hplain : ∀ c ∈ text, isBlank c = false := fun c hc =>
        not_isBlank_of_isHarmless (List.all_eq_true.mp hharmless c hc)
      exact ⟨hnonempty, fun c hc => hplain c (List.mem_of_head? hc),
        fun c hc => hplain c (List.mem_of_getLast? hc)⟩
    · refine ⟨by simp, by simp [hmark], ?_⟩
      rw [List.getLast?_concat]
      simp [hmark]

end ShellWords

namespace MonitorLine

theorem not_isBlank_of_isNameChar {c : Char} (h : isNameChar c = true) : isBlank c = false := by
  refine ShellWords.not_isBlank_of_isHarmless ?_
  rw [isNameChar, Bool.or_eq_true, beq_iff_eq] at h
  rw [ShellWords.isHarmless, Bool.or_eq_true]
  rcases h with halphanum | rfl
  · exact .inl halphanum
  · exact .inr (by decide +kernel)

/-- A line of the name of a command, a space and an argument, which has no blanks at its
ends. -/
theorem read_append {name : List Char} {argument : String} {command : Command}
    (hname : name.all isNameChar = true)
    (hcommand : Command.ofName? (String.ofList name) = some command) (hsome : name ≠ [])
    (hne : argument.toList ≠ []) (hfirst : ∀ c ∈ argument.toList.head?, isBlank c = false)
    (hlast : ∀ c ∈ argument.toList.getLast?, isBlank c = false) :
    read (String.ofList (name ++ ' ' :: argument.toList)) = .command command argument := by
  have hletters : ∀ c ∈ name, isNameChar c = true := List.all_eq_true.mp hname
  have htrimmed : trimmedBy isBlank (name ++ ' ' :: argument.toList) =
      name ++ ' ' :: argument.toList := by
    refine trimmedBy_eq_self (fun c hc => ?_) (fun c hc => ?_)
    · rw [List.head?_append_of_ne_nil _ hsome] at hc
      exact not_isBlank_of_isNameChar (hletters c (List.mem_of_head? hc))
    · rw [List.getLast?_append_of_ne_nil _ (List.cons_ne_nil _ _),
        List.getLast?_cons_of_ne_nil hne] at hc
      exact hlast c hc
  have hargument : trimmed (String.ofList (' ' :: argument.toList)) = argument := by
    have hblank : trimmedBy isBlank (' ' :: argument.toList) = trimmedBy isBlank argument.toList :=
      rfl
    rw [trimmed, String.toList_ofList, hblank, trimmedBy_eq_self hfirst hlast, String.ofList_toList]
  have hline : read (String.ofList (name ++ ' ' :: argument.toList)) =
      ofText (String.ofList (name ++ ' ' :: argument.toList)) := by
    rw [read, trimmed, String.toList_ofList, String.toList_ofList, htrimmed]
    cases name with
    | nil => exact absurd rfl hsome
    | cons first others =>
        rw [List.cons_append]
        split
        · rename_i heq
          cases heq
        · rename_i heq
          -- a question mark, which asks for help, is in no name
          cases heq
          exact absurd (hletters '?' List.mem_cons_self) (by decide)
        · rfl
  rw [hline, ofText, String.toList_ofList, List.takeWhile_append_of_pos hletters,
    List.dropWhile_append_of_pos hletters]
  have hspace : isNameChar ' ' = false := by decide
  rw [List.takeWhile_cons_of_neg (by simp [hspace]), List.dropWhile_cons_of_neg (by simp [hspace]),
    List.append_nil, hcommand, hargument]

theorem read_load_quote (path : String) :
    read ("load " ++ ShellWords.quote path) = .command .load (ShellWords.quote path) := by
  obtain ⟨hne, hfirst, hlast⟩ := ShellWords.ends_quoteChars path.toList
  have hquote : (ShellWords.quote path).toList = ShellWords.quoteChars path.toList := by
    rw [ShellWords.quote, String.toList_ofList]
  rw [← hquote] at hne hfirst hlast
  have hline : "load " ++ ShellWords.quote path =
      String.ofList ("load".toList ++ ' ' :: (ShellWords.quote path).toList) := by
    apply String.toList_injective
    simp
  rw [hline]
  exact read_append (by decide) (by decide +kernel) (by decide) hne hfirst hlast

end MonitorLine

/-! ## The command -/

namespace Monitor

open Console

variable {ρ : Type} [Generator ρ]

/-- **A reset loads the recorded path.**  The path is quoted as one word that splits into the
path alone, whatever characters it has; so a reset does, and prints, what every line does
that loads this path, and such a line there is.  It restarts with the program that the file
holds now, or says that it is too large, and then no program is left, or that the file
cannot be read; the path stays recorded. -/
theorem reset_reloads_recorded_path {m : Monitor ρ} {path line argument : String}
    (hpath : m.programPath = some path)
    (hline : MonitorLine.read line = .command .reset argument) (files : Files) :
    ShellWords.split (ShellWords.quote path) = .ok [path] ∧
    (∀ other words rest, MonitorLine.read other = .command .load words →
      ShellWords.split words = .ok (path :: rest) →
      execute files line m = execute files other m) ∧
    (∃ other words, MonitorLine.read other = .command .load words ∧
      ShellWords.split words = .ok [path]) ∧
    (∀ program, readFile files path = .ok program → program.length ≤ programLimit →
      execute files line m = .ok false { m with
        console := (Move.load program).after m.console
        printed := m.printed.push
          s!"Loaded {program.length} bytes from '{path}' at {Hexadecimal.address 0x200}" }) ∧
    (∀ program, readFile files path = .ok program → programLimit < program.length →
      execute files line m = .ok false { m with
        console := { m.console with loaded := false }
        printed := m.printed.push
          s!"Error: {(Fault.programTooLarge program.length).message}" }) ∧
    (∀ cause, readFile files path = .error (.file cause) →
      execute files line m = .ok false { m with
        printed := m.printed.push s!"Error reading '{path}': {cause.message}" }) ∧
    (readFile files path = .error .nullInPath → execute files line m = .error .nullInPath m) := by
  -- the path survives being quoted and split, so the load is that of the path
  have hreset : execute files line m = goOn (loadPath files path) m := by
    simp only [execute, hline, perform, goOn, bind, EStateM.bind, reset_eq_loadPath hpath]
  have hquoted := ShellWords.split_quote path
  refine ⟨hquoted, ?_, ⟨_, _, MonitorLine.read_load_quote path, hquoted⟩, ?_, ?_, ?_, ?_⟩
  · intro other words rest hother hwords
    rw [hreset]
    simp only [execute, hother, perform, goOn, bind, EStateM.bind, load_eq_loadPath hwords]
  · intro program hfile hfits
    rw [hreset]
    simp only [goOn, bind, EStateM.bind, loadPath_of_program hfile hfits, ← hpath]
    rfl
  · intro program hfile hsize
    rw [hreset]
    simp only [goOn, bind, EStateM.bind, loadPath_of_too_large hfile hsize]
    rfl
  · intro cause hfile
    rw [hreset]
    simp only [goOn, bind, EStateM.bind, loadPath_of_unreadable hfile]
    rfl
  · intro hfile
    rw [hreset]
    simp only [goOn, bind, EStateM.bind, loadPath_of_null hfile]

/-- A path with a quote in it, which a line may also write between double quotes. -/
theorem reset_reloads_recorded_path_of_quote :
    ∃ c : Console Cycle, Console.assemble "schip" 10 false (.ofList [0]) = .ok c ∧
      let m := { observing c with programPath := some "it's a rom" }
      m.programPath = some "it's a rom" ∧ MonitorLine.read "reset" = .command .reset "" ∧
        ∀ files, execute files "reset" m = execute files "load \"it's a rom\" again" m := by
  have hassembled : Console.assemble "schip" 10 false (Cycle.ofList [0]) = .ok _ := rfl
  refine ⟨_, hassembled, ?_⟩
  intro m
  have hline : MonitorLine.read "reset" = .command .reset "" := by decide +kernel
  have hother : MonitorLine.read "load \"it's a rom\" again" =
      .command .load "\"it's a rom\" again" := by
    decide +kernel
  have hwords : ShellWords.split "\"it's a rom\" again" = .ok ["it's a rom", "again"] := by
    decide +kernel
  refine ⟨rfl, hline, fun files => ?_⟩
  have hpath : m.programPath = some "it's a rom" := rfl
  exact (reset_reloads_recorded_path hpath hline files).2.1 _ _ ["again"] hother hwords

end Monitor

end SuperChip
