import LanMessenger.CMemory.LittleEndian

namespace CMemory

/-- The C string that starts at these bytes: everything before the first NUL. -/
def cString : List Byte → List Byte
  | [] => []
  | byte :: rest => if byte = 0#8 then [] else byte :: cString rest

def strlen (bytes : List Byte) : Nat := (cString bytes).length

def ascii (text : List Char) : List Byte := text.map fun c => BitVec.ofNat 8 c.toNat

@[simp] theorem cString_nil : cString [] = [] := rfl

@[simp] theorem cString_zero (rest : List Byte) : cString (0#8 :: rest) = [] := by simp [cString]

theorem zero_not_mem_cString (bytes : List Byte) : 0#8 ∉ cString bytes := by
  induction bytes with
  | nil => simp
  | cons byte rest ih =>
    by_cases zero : byte = 0#8
    · simp [zero]
    · simpa [cString, zero] using ⟨fun same => zero same.symm, ih⟩

theorem cString_append_of_not_mem {text : List Byte} (nonzero : 0#8 ∉ text) (rest : List Byte) :
    cString (text ++ rest) = text ++ cString rest := by
  induction text with
  | nil => rfl
  | cons byte text ih =>
    rw [List.mem_cons, not_or] at nonzero
    simp [cString, Ne.symm nonzero.1, ih nonzero.2]

theorem cString_append_of_mem {text : List Byte} (terminated : 0#8 ∈ text) (rest : List Byte) :
    cString (text ++ rest) = cString text := by
  induction text with
  | nil => simp at terminated
  | cons byte text ih =>
    by_cases zero : byte = 0#8
    · simp [zero]
    · have later : 0#8 ∈ text := (List.mem_cons.mp terminated).resolve_left (Ne.symm zero)
      simp [cString, zero, ih later]

theorem cString_of_not_mem {text : List Byte} (nonzero : 0#8 ∉ text) : cString text = text := by
  simpa using cString_append_of_not_mem nonzero []

@[simp] theorem cString_cString (bytes : List Byte) : cString (cString bytes) = cString bytes :=
  cString_of_not_mem (zero_not_mem_cString bytes)

theorem strlen_le_length (bytes : List Byte) : strlen bytes ≤ bytes.length := by
  induction bytes with
  | nil => exact Nat.le_refl 0
  | cons byte rest ih =>
    unfold strlen at ih ⊢
    rw [cString]
    split
    · exact Nat.zero_le _
    · exact Nat.succ_le_succ ih

theorem cString_terminated {text : List Byte} (nonzero : 0#8 ∉ text) (rest : List Byte) :
    cString (text ++ 0#8 :: rest) = text := by
  simp [cString_append_of_not_mem nonzero]

@[simp] theorem cString_replicate (count : Nat) : cString (List.replicate count 0#8) = [] := by
  cases count <;> simp [List.replicate_succ]

theorem cString_append_replicate (bytes : List Byte) (count : Nat) :
    cString (bytes ++ List.replicate count 0#8) = cString bytes := by
  by_cases terminated : 0#8 ∈ bytes
  · exact cString_append_of_mem terminated _
  · simp [cString_append_of_not_mem terminated, cString_of_not_mem terminated]

theorem take_strlen (bytes : List Byte) : bytes.take (strlen bytes) = cString bytes := by
  induction bytes with
  | nil => rfl
  | cons byte rest ih =>
    unfold strlen at ih ⊢
    rw [cString]
    split
    · rfl
    · simpa using ih

theorem strlen_set_zero_le (bytes : List Byte) {index : Nat} (inside : index < bytes.length) :
    strlen (bytes.set index 0#8) ≤ index := by
  induction bytes generalizing index with
  | nil => exact absurd inside (Nat.not_lt_zero index)
  | cons byte bytes ih =>
    cases index with
    | zero => simp [strlen]
    | succ index =>
      have rest := ih (Nat.lt_of_succ_lt_succ inside)
      rw [strlen] at rest ⊢
      rw [List.set_cons_succ, cString]
      split
      · exact Nat.zero_le _
      · exact Nat.succ_le_succ rest

/-- `strncpy`: the string is cut to `count` bytes, or padded to them with NULs. -/
def strncpy (source : List Byte) (count : Nat) : List Byte :=
  (cString source ++ List.replicate count 0#8).take count

@[simp] theorem strncpy_length (source : List Byte) (count : Nat) : (strncpy source count).length = count := by
  simp [strncpy]

theorem strncpy_eq_take (source : List Byte) (count : Nat) :
    strncpy source count =
      (cString source).take count ++ List.replicate (count - (cString source).length) 0#8 := by
  rw [strncpy, List.take_append, List.take_replicate]
  congr 2
  omega

theorem cString_strncpy (source : List Byte) (count : Nat) :
    cString (strncpy source count) = (cString source).take count := by
  rw [strncpy_eq_take, cString_append_replicate]
  exact cString_of_not_mem fun member => zero_not_mem_cString source (List.mem_of_mem_take member)

theorem cString_strncpy_append_zero (source : List Byte) (count : Nat) (rest : List Byte) :
    cString (strncpy source count ++ 0#8 :: rest) = (cString source).take count := by
  by_cases terminated : 0#8 ∈ strncpy source count
  · rw [cString_append_of_mem terminated, cString_strncpy]
  · rw [cString_append_of_not_mem terminated, cString_zero, List.append_nil,
      ← cString_of_not_mem terminated, cString_strncpy]

theorem zero_mem_strncpy_iff (source : List Byte) (count : Nat) : 0#8 ∈ strncpy source count ↔ strlen source < count := by
  rw [strncpy_eq_take, List.mem_append, List.mem_replicate, strlen]
  constructor
  · rintro (inside | ⟨padded, -⟩)
    · exact absurd (List.mem_of_mem_take inside) (zero_not_mem_cString source)
    · omega
  · intro short
    exact Or.inr ⟨by omega, rfl⟩

def isprint (byte : Byte) : Bool := 32 ≤ byte.toNat && byte.toNat ≤ 126

def tolower (byte : Byte) : Byte := if 65 ≤ byte.toNat ∧ byte.toNat ≤ 90 then byte + 32#8 else byte

/-- `strcasecmp( left, right ) == 0` in the C locale. -/
def strcaseEq (left right : List Byte) : Bool := (cString left).map tolower = (cString right).map tolower

end CMemory
