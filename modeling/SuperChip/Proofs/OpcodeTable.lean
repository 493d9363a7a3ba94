import SuperChip.Proofs.Indices

/-!
# The words without an instruction

`Opcode.UndefinedIn` lists the words that a variant has no instruction for, family by
family and with the operand written as one number, the way tables of opcodes do it.
Decoding goes digit by digit, so the digits of an operand are taken from its number
first (`digits_of_kk`, `digits_of_nnn`), and each decoder has one lemma about the words
that it refuses in a variant.
-/

namespace SuperChip

/-! ## The digits of an operand -/

namespace Opcode

theorem toNat_kk (op : Opcode) : op.kk.toNat = op.y.val * 16 + op.n.val := by
  have hy := op.y.isLt
  have hn := op.n.isLt
  rw [kk, UInt8.toNat_ofNat']
  omega

theorem digits_of_kk {op : Opcode} {code : Nat} (h : op.kk.toNat = code) :
    op.y.val = code / 16 ∧ op.n.val = code % 16 := by
  have hn := op.n.isLt
  rw [toNat_kk] at h
  omega

theorem digits_of_nnn {op : Opcode} {code : Nat} (h : op.nnn = code) :
    op.x.val = code / 256 ∧ op.y.val = code / 16 % 16 ∧ op.n.val = code % 16 := by
  have hy := op.y.isLt
  have hn := op.n.isLt
  rw [nnn] at h
  omega

/-! ## Opcodes without an instruction -/

/-- The opcodes that a variant has no instruction for. -/
inductive UndefinedIn (variant : Variant) (op : Opcode) : Prop
  | display (hfamily : op.family.val = 0x0) (hcommon : op.nnn ∉ [0x0E0, 0x0EE])
      (hextended : variant = .schip →
        op.nnn / 16 ≠ 0x0C ∧ op.nnn ∉ [0x0FB, 0x0FC, 0x0FD, 0x0FE, 0x0FF])
  | comparison (hfamily : op.family.val = 0x5 ∨ op.family.val = 0x9)
      (hextended : variant = .schip) (hdigit : op.n ≠ 0)
  | arithmetic (hfamily : op.family.val = 0x8)
      (hdigit : op.n.val ∉ [0x0, 0x1, 0x2, 0x3, 0x4, 0x5, 0x6, 0x7, 0xE])
  | key (hfamily : op.family.val = 0xE) (hcode : op.kk.toNat ∉ [0x9E, 0xA1])
  | transfer (hfamily : op.family.val = 0xF)
      (hcommon : op.kk.toNat ∉ [0x07, 0x0A, 0x15, 0x18, 0x1E, 0x29, 0x33, 0x55, 0x65])
      (hextended : variant = .schip → op.kk.toNat ∉ [0x30, 0x75, 0x85])

end Opcode

namespace Instruction

theorem filter_decodeDisplay_eq_none_iff (variant : Variant) (op : Opcode) :
    (decodeDisplay op).filter (definedIn variant) = none ↔
      op.nnn ∉ [0x0E0, 0x0EE] ∧ (variant = .schip →
        op.nnn / 16 ≠ 0x0C ∧ op.nnn ∉ [0x0FB, 0x0FC, 0x0FD, 0x0FE, 0x0FF]) := by
  have hlast := op.n.isLt
  constructor
  · intro hnone
    refine ⟨?_, fun hvariant => ⟨?_, ?_⟩⟩
    · intro hmem
      simp only [List.mem_cons, List.not_mem_nil, or_false] at hmem
      rcases hmem with h | h
      all_goals
        obtain ⟨hx, hy, hn⟩ := Opcode.digits_of_nnn h
        cases variant <;> simp [decodeDisplay, hx, hy, hn, definedIn, Option.filter] at hnone
    · intro hrow
      rw [Opcode.nnn] at hrow
      have hx : op.x.val = 0 := by omega
      have hy : op.y.val = 0xC := by omega
      simp [decodeDisplay, hx, hy, hvariant, definedIn, Option.filter] at hnone
    · intro hmem
      simp only [List.mem_cons, List.not_mem_nil, or_false] at hmem
      rcases hmem with h | h | h | h | h
      all_goals
        obtain ⟨hx, hy, hn⟩ := Opcode.digits_of_nnn h
        simp [decodeDisplay, hx, hy, hn, hvariant, definedIn, Option.filter] at hnone
  -- every word that is decoded is in one of the two lists, so none is decoded here
  · rintro ⟨hcommon, hextended⟩
    rw [Opcode.nnn] at hcommon hextended
    unfold decodeDisplay
    split
    case h_1 hx hy =>
      cases variant with
      | chip8 => rfl
      | schip =>
          have hrow := (hextended rfl).1
          omega
    case h_9 => rfl
    all_goals
      rename_i hx hy hn
      rw [hx, hy, hn] at hcommon hextended
      cases variant <;> simp [definedIn, Option.filter] at hcommon hextended ⊢

theorem filter_decodeKey_eq_none_iff (variant : Variant) (op : Opcode) :
    (decodeKey op).filter (definedIn variant) = none ↔ op.kk.toNat ∉ [0x9E, 0xA1] := by
  constructor
  · intro hnone hmem
    simp only [List.mem_cons, List.not_mem_nil, or_false] at hmem
    rcases hmem with h | h
    all_goals
      obtain ⟨hy, hn⟩ := Opcode.digits_of_kk h
      cases variant <;> simp [decodeKey, hy, hn, definedIn, Option.filter] at hnone
  · intro hcode
    rw [Opcode.toNat_kk] at hcode
    unfold decodeKey
    split
    case h_3 => rfl
    all_goals
      rename_i hy hn
      rw [hy, hn] at hcode
      simp at hcode

theorem filter_decodeTransfer_eq_none_iff (variant : Variant) (op : Opcode) :
    (decodeTransfer op).filter (definedIn variant) = none ↔
      op.kk.toNat ∉ [0x07, 0x0A, 0x15, 0x18, 0x1E, 0x29, 0x33, 0x55, 0x65] ∧
      (variant = .schip → op.kk.toNat ∉ [0x30, 0x75, 0x85]) := by
  constructor
  · intro hnone
    refine ⟨?_, fun hvariant => ?_⟩
    · intro hmem
      simp only [List.mem_cons, List.not_mem_nil, or_false] at hmem
      rcases hmem with h | h | h | h | h | h | h | h | h
      all_goals
        obtain ⟨hy, hn⟩ := Opcode.digits_of_kk h
        cases variant <;> simp [decodeTransfer, hy, hn, definedIn, Option.filter] at hnone
    · intro hmem
      simp only [List.mem_cons, List.not_mem_nil, or_false] at hmem
      rcases hmem with h | h | h
      all_goals
        obtain ⟨hy, hn⟩ := Opcode.digits_of_kk h
        simp [decodeTransfer, hy, hn, hvariant, definedIn, Option.filter] at hnone
  · rintro ⟨hcommon, hextended⟩
    rw [Opcode.toNat_kk] at hcommon hextended
    unfold decodeTransfer
    split
    case h_13 => rfl
    all_goals
      rename_i hy hn
      rw [hy, hn] at hcommon hextended
      cases variant <;> simp [definedIn, Option.filter] at hcommon hextended ⊢

theorem decodeArithmetic_eq_none_iff (n : Fin 16) :
    decodeArithmetic n = none ↔ n.val ∉ [0x0, 0x1, 0x2, 0x3, 0x4, 0x5, 0x6, 0x7, 0xE] := by
  revert n
  decide

/-- Both variants combine registers with the same digits. -/
theorem filter_combine_eq_none_iff (variant : Variant) (op : Opcode) :
    ((decodeArithmetic op.n).map fun operation => .combine operation op.x op.y).filter
        (definedIn variant) = none ↔ decodeArithmetic op.n = none := by
  cases decodeArithmetic op.n with
  | none => simp
  | some operation => cases variant <;> simp [definedIn, Option.filter]

/-- Only the extended set looks at the last digit of a comparison. -/
theorem filter_skipRegister_eq_none_iff (variant : Variant) (whenEqual : Bool) (x y n : Fin 16) :
    (some (skipRegister whenEqual x y n)).filter (definedIn variant) = none ↔
      variant = .schip ∧ n ≠ 0 := by
  cases variant with
  | chip8 => simp [definedIn, Option.filter]
  | schip => simp [definedIn]

theorem decodeIn_eq_none_iff (variant : Variant) (op : Opcode) :
    decodeIn variant op = none ↔ op.UndefinedIn variant := by
  constructor
  · intro h
    unfold decodeIn decode at h
    split at h
    case h_1 hfamily =>
      obtain ⟨hcommon, hextended⟩ := (filter_decodeDisplay_eq_none_iff variant op).mp h
      exact .display hfamily hcommon hextended
    case h_6 hfamily =>
      obtain ⟨hvariant, hdigit⟩ := (filter_skipRegister_eq_none_iff variant _ _ _ _).mp h
      exact .comparison (.inl hfamily) hvariant hdigit
    case h_9 hfamily =>
      have hrefused := (filter_combine_eq_none_iff variant op).mp h
      exact .arithmetic hfamily ((decodeArithmetic_eq_none_iff op.n).mp hrefused)
    case h_10 hfamily =>
      obtain ⟨hvariant, hdigit⟩ := (filter_skipRegister_eq_none_iff variant _ _ _ _).mp h
      exact .comparison (.inr hfamily) hvariant hdigit
    case h_15 hfamily =>
      exact .key hfamily ((filter_decodeKey_eq_none_iff variant op).mp h)
    case h_16 =>
      have hlt := op.family.isLt
      have hfamily : op.family.val = 0xF := by grind
      obtain ⟨hcommon, hextended⟩ := (filter_decodeTransfer_eq_none_iff variant op).mp h
      exact .transfer hfamily hcommon hextended
    -- the other families are decoded in both variants, whatever the digits
    all_goals cases variant <;> simp [definedIn, Option.filter] at h
  · intro h
    rw [decodeIn]
    cases h with
    | display hfamily hcommon hextended =>
        simp only [decode, hfamily]
        exact (filter_decodeDisplay_eq_none_iff variant op).mpr ⟨hcommon, hextended⟩
    | comparison hfamily hvariant hdigit =>
        rcases hfamily with hfamily | hfamily
        all_goals
          simp only [decode, hfamily]
          exact (filter_skipRegister_eq_none_iff variant _ _ _ _).mpr ⟨hvariant, hdigit⟩
    | arithmetic hfamily hdigit =>
        simp only [decode, hfamily]
        have hrefused := (decodeArithmetic_eq_none_iff op.n).mpr hdigit
        exact (filter_combine_eq_none_iff variant op).mpr hrefused
    | key hfamily hcode =>
        simp only [decode, hfamily]
        exact (filter_decodeKey_eq_none_iff variant op).mpr hcode
    | transfer hfamily hcommon hextended =>
        simp only [decode, hfamily]
        exact (filter_decodeTransfer_eq_none_iff variant op).mpr ⟨hcommon, hextended⟩

end Instruction

end SuperChip
