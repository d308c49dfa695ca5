import Mathlib.Data.Nat.Digits.Lemmas

namespace CMemory

abbrev Byte := BitVec 8

/-- The number a little-endian machine reads from consecutive bytes. -/
def unsigned (bytes : List Byte) : Nat := Nat.ofDigits 256 (bytes.map BitVec.toNat)

def unsignedBytes : Nat → Nat → List Byte
  | 0, _ => []
  | width + 1, value => BitVec.ofNat 8 value :: unsignedBytes width (value / 256)

@[simp] theorem unsigned_nil : unsigned [] = 0 := rfl

@[simp] theorem unsigned_cons (head : Byte) (tail : List Byte) :
    unsigned (head :: tail) = head.toNat + 256 * unsigned tail := by
  simp [unsigned, Nat.ofDigits_cons]

@[simp] theorem unsignedBytes_length (width value : Nat) : (unsignedBytes width value).length = width := by
  induction width generalizing value with
  | zero => rfl
  | succ width ih => simp [unsignedBytes, ih]

theorem unsigned_unsignedBytes (width value : Nat) :
    unsigned (unsignedBytes width value) = value % 256 ^ width := by
  induction width generalizing value with
  | zero => simp [unsignedBytes, Nat.mod_one]
  | succ width ih =>
    have split : value % (256 * 256 ^ width) = value % 256 + 256 * (value / 256 % 256 ^ width) := Nat.mod_mul
    simp only [unsignedBytes, unsigned_cons, ih, BitVec.toNat_ofNat, Nat.reducePow, Nat.pow_succ', split]

def wordBytes (width : Nat) (word : BitVec (8 * width)) : List Byte := unsignedBytes width word.toNat

def word (width : Nat) (bytes : List Byte) : BitVec (8 * width) := BitVec.ofNat (8 * width) (unsigned bytes)

@[simp] theorem wordBytes_length (width : Nat) (bits : BitVec (8 * width)) :
    (wordBytes width bits).length = width := unsignedBytes_length _ _

@[simp] theorem word_wordBytes (width : Nat) (bits : BitVec (8 * width)) :
    word width (wordBytes width bits) = bits := by
  have bound : bits.toNat < 256 ^ width := by
    have below := bits.isLt
    rwa [Nat.pow_mul] at below
  apply BitVec.eq_of_toNat_eq
  rw [word, wordBytes, unsigned_unsignedBytes, Nat.mod_eq_of_lt bound, BitVec.toNat_ofNat,
    Nat.mod_eq_of_lt bits.isLt]

def int (bytes : List Byte) : Int := (word 4 bytes).toInt

def intBytes (value : Int) : List Byte := wordBytes 4 (BitVec.ofInt 32 value)

@[simp] theorem intBytes_length (value : Int) : (intBytes value).length = 4 := wordBytes_length _ _

theorem int_intBytes (value : Int) (low : -2 ^ 31 ≤ value) (high : value < 2 ^ 31) :
    int (intBytes value) = value := by
  rw [int, intBytes, word_wordBytes, BitVec.toInt_ofInt]
  exact Int.bmod_eq_of_le (by omega) (by omega)

theorem int_intBytes_natCast (value : Nat) (high : value < 2 ^ 31) : int (intBytes value) = value :=
  int_intBytes value (by omega) (by omega)

end CMemory
