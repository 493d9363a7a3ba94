import SuperChip.Instruction.Basic
import SuperChip.Memory

/-!
# Indices and operands that lie in memory

Fetching an opcode and reading a sprite take indices that may miss.  Inside
memory they do not: there the readers by index agree with the readers by
address, which never miss, and which give the bytes of memory one after the
other.  And the operand of an instruction that names an address has three digits,
so it always lies in memory.
-/

namespace SuperChip

/-- An index that counts from the front does not miss. -/
theorem indexIn_of_lt (size : Nat) (miss : Fault) {index : Int} (hlow : 0 ≤ index)
    (hhigh : index < size) :
    indexIn size miss index = .ok ⟨index.toNat, by omega⟩ := by
  rw [indexIn, dif_pos ⟨hlow, hhigh⟩]

namespace Memory

variable (memory : Memory)

/-! ## Readers by index -/

/-- A negative index means a byte too, counted from the end. -/
theorem readIndex_eq_read {index : Int} (hlow : -4096 ≤ index) (hhigh : index < 4096) :
    memory.readIndex index = .ok (memory.read index) := by
  have hplace : indexIn 4096 .memoryIndex index = .ok (cell index) := by
    by_cases hfront : 0 ≤ index
    · have hcell : index % 4096 = index := Int.emod_eq_of_lt hfront hhigh
      simp only [indexIn_of_lt 4096 _ hfront hhigh, cell, hcell]
    · have hcell : index % 4096 = index + 4096 := by omega
      rw [indexIn, dif_neg (by omega), dif_pos (by omega)]
      simp only [cell, hcell]
      rfl
  simp only [readIndex, hplace]
  rfl

/-- In front of the negative indices there is nothing to read. -/
theorem readIndex_of_lt {index : Int} (hlow : index < -4096) :
    ∃ fault, memory.readIndex index = .error fault ∧
      (fault = .memoryIndex ∨ fault = .indexTooWide) := by
  rw [readIndex, indexIn, dif_neg (by omega), dif_neg (by omega)]
  split
  · exact ⟨_, rfl, .inl rfl⟩
  · exact ⟨_, rfl, .inr rfl⟩

/-- Indices of which none is out of range are read like addresses. -/
theorem readIndices_eq_readAll (count : Nat) {index : Int} (hlow : -4096 ≤ index)
    (hhigh : index + count ≤ 4096) :
    memory.readIndices index count = .ok (memory.readAll index count) := by
  induction count generalizing index with
  | zero => rfl
  | succ count ih =>
      have hrest := @ih (index + 1) (by omega) (by omega)
      simp only [readIndices, readAll, hrest, memory.readIndex_eq_read hlow (by omega)]
      rfl

/-- Below the last byte there is an opcode to fetch. -/
theorem fetch_eq_opcode {index : Int} (hlow : 0 ≤ index) (hhigh : index < 4095) :
    memory.fetch index = .ok (memory.opcode index) := by
  have hfirst : memory.readIndex index = .ok (memory.read index) :=
    memory.readIndex_eq_read (by omega) (by omega)
  have hsecond : memory.readIndex (index + 1) = .ok (memory.read (index + 1)) :=
    memory.readIndex_eq_read (by omega) (by omega)
  simp only [fetch, opcode, hfirst, hsecond]
  rfl

/-! ## Bytes in order -/

theorem getElem?_toList_bytes (address : Int) :
    memory.bytes.toList[(address % 4096).toNat]? = some (memory.read address) := by
  rw [Vector.getElem?_toList]
  exact Vector.getElem?_eq_getElem (cell address).isLt

theorem getElem?_readAll (address : Int) {count k : Nat} (hk : k < count) :
    (memory.readAll address count)[k]? = some (memory.read (address + k)) := by
  induction count generalizing address k with
  | zero => omega
  | succ count ih =>
      cases k with
      | zero => simp [readAll]
      | succ k =>
          have haddress : address + 1 + (k : Int) = address + ((k + 1 : Nat) : Int) := by omega
          rw [readAll, List.getElem?_cons_succ, ih (address + 1) (by omega), haddress]

theorem length_readAll (address : Int) (count : Nat) :
    (memory.readAll address count).length = count := by
  induction count generalizing address with
  | zero => rfl
  | succ count ih => rw [readAll, List.length_cons, ih]

theorem readAll_add (address : Int) (front behind : Nat) :
    memory.readAll address (front + behind) =
      memory.readAll address front ++ memory.readAll (address + front) behind := by
  induction front generalizing address with
  | zero => simp [readAll]
  | succ front ih =>
      have haddress : address + 1 + (front : Int) = address + (front + 1 : Nat) := by omega
      rw [Nat.succ_add, readAll, ih, haddress, readAll, List.cons_append]

/-- The bytes of memory from an address inside it on. -/
theorem drop_toList_bytes {address : Int} (hlow : 0 ≤ address) (hhigh : address < 4096) :
    memory.bytes.toList.drop address.toNat =
      memory.read address :: memory.bytes.toList.drop (address + 1).toNat := by
  have hfirst := memory.getElem?_toList_bytes address
  rw [Int.emod_eq_of_lt hlow hhigh] at hfirst
  have hnext : (address + 1).toNat = address.toNat + 1 := by omega
  rw [List.drop_eq_getElem?_toList_append, hfirst, hnext]
  rfl

end Memory

namespace Instruction

/-! ## Operands that name an address -/

/-- The address that an instruction names, if it has one among its operands. -/
def target? : Instruction → Option Nat
  | jump target => some target
  | call target => some target
  | loadIndex target => some target
  | jumpOffset target => some target
  | _ => none

private theorem target?_decodeDisplay {op : Opcode} {instruction : Instruction}
    (h : decodeDisplay op = some instruction) : instruction.target? = none := by
  unfold decodeDisplay at h
  split at h
  all_goals cases h
  all_goals rfl

private theorem target?_decodeKey {op : Opcode} {instruction : Instruction}
    (h : decodeKey op = some instruction) : instruction.target? = none := by
  unfold decodeKey at h
  split at h
  all_goals cases h
  all_goals rfl

private theorem target?_decodeTransfer {op : Opcode} {instruction : Instruction}
    (h : decodeTransfer op = some instruction) : instruction.target? = none := by
  unfold decodeTransfer at h
  split at h
  all_goals cases h
  all_goals rfl

/-- The address that an instruction names is the last three digits of its
opcode. -/
theorem target_eq_nnn {op : Opcode} {instruction : Instruction}
    (hdecode : decode op = some instruction) {target : Nat}
    (htarget : instruction.target? = some target) : target = op.nnn := by
  unfold decode at hdecode
  split at hdecode
  case h_1 => simp [target?_decodeDisplay hdecode] at htarget
  case h_9 =>
    obtain ⟨operation, -, rfl⟩ := Option.map_eq_some_iff.mp hdecode
    simp [target?] at htarget
  case h_15 => simp [target?_decodeKey hdecode] at htarget
  case h_16 => simp [target?_decodeTransfer hdecode] at htarget
  all_goals
    cases hdecode
    simp_all [target?]

/-- A variant gives no opcode a meaning of its own. -/
theorem decode_of_decodeIn {variant : Variant} {op : Opcode} {instruction : Instruction}
    (h : decodeIn variant op = some instruction) : decode op = some instruction :=
  (Option.filter_eq_some_iff.mp h).1

/-- An address in an opcode lies in memory. -/
theorem target_lt_of_decode {op : Opcode} {instruction : Instruction}
    (hdecode : decode op = some instruction) {target : Nat}
    (htarget : instruction.target? = some target) : target < 4096 := by
  rw [target_eq_nnn hdecode htarget]
  exact op.nnn_lt

end Instruction

end SuperChip
