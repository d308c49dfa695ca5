import LanMessenger.CMemory.CString

namespace CMemory

structure Field (size : Nat) where
  bytes : List Byte
  length_bytes : bytes.length = size
deriving DecidableEq

namespace Field

variable {size : Nat}

attribute [simp] length_bytes

@[ext] theorem ext {left right : Field size} (same : left.bytes = right.bytes) : left = right := by
  cases left
  cases right
  cases same
  rfl

/-- `memcpy( field, source, size )`, where the source has at least `size` bytes. -/
def ofBytes (size : Nat) (source : List Byte) : Field size :=
  ⟨(source ++ List.replicate size 0#8).take size, by simp⟩

def zero (size : Nat) : Field size := ⟨List.replicate size 0#8, by simp⟩

/-- `memcpy( field, source, length )` with no more bytes than the field has; the others stay. -/
def overwrite (field : Field size) (source : List Byte) : Field size :=
  ⟨source.take size ++ field.bytes.drop source.length, by simp; omega⟩

def set (field : Field size) (index : Nat) (byte : Byte) : Field size :=
  ⟨field.bytes.set index byte, by simp⟩

/-- The string a `const char*` to the field denotes, read no further than the field. -/
def text (field : Field size) : List Byte := cString field.bytes

theorem ofBytes_bytes {source : List Byte} (long : size ≤ source.length) :
    (ofBytes size source).bytes = source.take size := by
  simp [ofBytes, List.take_append_of_le_length long]

theorem ofBytes_append (field : Field size) (rest : List Byte) : ofBytes size (field.bytes ++ rest) = field := by
  ext1
  rw [ofBytes_bytes (by simp)]
  simp

theorem overwrite_bytes (field : Field size) {source : List Byte} (fits : source.length ≤ size) :
    (field.overwrite source).bytes = source ++ field.bytes.drop source.length := by
  simp [overwrite, List.take_of_length_le fits]

theorem overwrite_whole (field : Field size) {source : List Byte} (fits : source.length = size) :
    (field.overwrite source).bytes = source := by
  rw [overwrite_bytes field (Nat.le_of_eq fits), fits]
  simp

theorem text_overwrite_zeroed (field : Field size) {text : List Byte} {count : Nat} (nonzero : 0#8 ∉ text)
    (short : text.length < count) (fits : count ≤ size) :
    ((field.overwrite (List.replicate count 0#8)).overwrite text).text = text := by
  have zeroed : (List.replicate count 0#8).drop text.length =
      0#8 :: List.replicate (count - text.length - 1) 0#8 := by
    rw [List.drop_replicate, ← List.replicate_succ]
    congr 1
    omega
  rw [Field.text, overwrite_bytes _ (by omega), overwrite_bytes field (by simpa using fits),
    List.drop_append_of_le_length (by simp; omega), zeroed, List.cons_append]
  exact cString_terminated nonzero _

def Terminated (field : Field size) : Prop := 0#8 ∈ field.bytes

instance (field : Field size) : Decidable field.Terminated := inferInstanceAs (Decidable (_ ∈ _))

theorem terminated_overwrite_iff (field : Field size) {source : List Byte} (fits : source.length ≤ size) :
    (field.overwrite source).Terminated ↔ 0#8 ∈ source ∨ 0#8 ∈ field.bytes.drop source.length := by
  rw [Terminated, overwrite_bytes field fits, List.mem_append]

theorem terminated_overwrite_zeroed_iff (field : Field size) {text : List Byte} {count : Nat} (fits : text.length ≤ size)
    (inside : count ≤ size) :
    ((field.overwrite (List.replicate count 0#8)).overwrite text).Terminated ↔
      0#8 ∈ text ∨ text.length < count ∨ 0#8 ∈ field.bytes.drop (max count text.length) := by
  rw [terminated_overwrite_iff _ fits, overwrite_bytes field (by simpa using inside), List.drop_append, List.mem_append,
    List.drop_replicate, List.mem_replicate, List.drop_drop, List.length_replicate]
  refine or_congr_right (or_congr ⟨fun left => by omega, fun short => ⟨by omega, rfl⟩⟩ ?_)
  rw [Nat.max_def]
  split <;> rename_i order
  · rw [Nat.add_sub_cancel' order]
  · rw [Nat.sub_eq_zero_of_le (by omega), Nat.add_zero]

theorem length_text_le (field : Field size) : field.text.length ≤ size := by
  have bound := strlen_le_length field.bytes
  rwa [field.length_bytes] at bound

end Field

end CMemory
