import SuperChip.Text.ShellWords

/-!
# A quoted text is one word

`quote` writes any text as one word, and `split` reads the text back.  A text of
harmless characters is read character by character; in any other, single quotes
make every character stand for itself, but for a single quote, which leaves them
for a moment.
-/

namespace SuperChip.ShellWords

/-- A harmless character neither ends a word nor begins a quotation or an escape. -/
theorem plain_of_isHarmless {c : Char} (h : isHarmless c = true) :
    isSeparator c = false ∧ c ≠ '\\' ∧ isQuote c = false := by
  refine ⟨?_, ?_, ?_⟩
  · by_cases hseparator : isSeparator c = true
    · simp only [isSeparator, Bool.or_eq_true, beq_iff_eq] at hseparator
      obtain ((rfl | rfl) | rfl) | rfl := hseparator
      all_goals exact absurd h (by decide)
    · simpa using hseparator
  · rintro rfl
    exact absurd h (by decide)
  · by_cases hquote : isQuote c = true
    · simp only [isQuote, Bool.or_eq_true, beq_iff_eq] at hquote
      obtain rfl | rfl := hquote
      all_goals exact absurd h (by decide)
    · simpa using hquote

theorem splitFrom_of_harmless {text : List Char} (h : ∀ c ∈ text, isHarmless c = true)
    (word : List Char) : splitFrom .inside word text = .ok [word.reverse ++ text] := by
  induction text generalizing word with
  | nil => simp [splitFrom]
  | cons c rest ih =>
      obtain ⟨hseparator, hescape, hquote⟩ := plain_of_isHarmless (h c List.mem_cons_self)
      have hrest := ih (fun c hc => h c (List.mem_cons_of_mem _ hc)) (c :: word)
      simp [splitFrom, hseparator, hescape, hquote, hrest]

/-- Between single quotes, a protected text is read as it was. -/
theorem splitFrom_protect (text word : List Char) :
    splitFrom (.quotation singleQuote) word (text.flatMap protect ++ [singleQuote]) =
      .ok [word.reverse ++ text] := by
  induction text generalizing word with
  | nil => simp [splitFrom]
  | cons c rest ih =>
      have hrest := ih (c :: word)
      have hmark : singleQuote ≠ '"' := by decide
      by_cases hc : c = singleQuote
      · -- out of the quotes, into double ones, and back again
        subst hc
        have hplain : isSeparator singleQuote = false ∧ singleQuote ≠ '\\' ∧
            isQuote singleQuote = true := by decide
        have hdouble : isSeparator '"' = false ∧ '"' ≠ '\\' ∧ isQuote '"' = true := by decide
        simp [splitFrom, protect, hplain, hdouble, hmark, hrest]
      · simp [splitFrom, protect, hc, hmark, hrest]

theorem splitFrom_quoteChars (text : List Char) :
    splitFrom .between [] (quoteChars text) = .ok [text] := by
  have hopening : isSeparator singleQuote = false ∧ singleQuote ≠ '\\' ∧
      isQuote singleQuote = true := by decide
  unfold quoteChars
  split
  · rename_i hempty
    rw [hempty]
    rfl
  -- harmless characters stand for themselves, and all others are quoted
  · split
    · rename_i hnonempty hharmless
      have hall : ∀ c ∈ text, isHarmless c = true := List.all_eq_true.mp hharmless
      cases text with
      | nil => exact absurd rfl hnonempty
      | cons c rest =>
          obtain ⟨hseparator, hescape, hquote⟩ := plain_of_isHarmless (hall c List.mem_cons_self)
          have hrest := splitFrom_of_harmless
            (fun c hc => hall c (List.mem_cons_of_mem _ hc)) [c]
          simp [splitFrom, hseparator, hescape, hquote, hrest]
    · have hprotected := splitFrom_protect text []
      simpa [splitFrom, hopening] using hprotected

/-- A quoted text splits into that text. -/
theorem split_quote (text : String) : split (quote text) = .ok [text] := by
  rw [split, quote, String.toList_ofList, splitFrom_quoteChars]
  show Except.ok [String.ofList text.toList] = _
  rw [String.ofList_toList]

end SuperChip.ShellWords
