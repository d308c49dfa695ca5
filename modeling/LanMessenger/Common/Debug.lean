import LanMessenger.CMemory.Printf

namespace LanMessenger

open CMemory

abbrev maxStringLength : Nat := 512

/-- An array on the stack, and what `sprintf` puts into it in front of the NUL. -/
structure Formatted where
  size : Nat
  text : List Byte

def Formatted.Fits (buffer : Formatted) : Prop := buffer.text.length + 1 ≤ buffer.size

instance (buffer : Formatted) : Decidable buffer.Fits := inferInstanceAs (Decidable (_ ≤ _))

namespace Common

/-- `elapsed` is the time since the start of the program, in thousandths of a second. -/
def writeLine (elapsed : Int) (linePrefix : Option (List Byte)) (string : List Byte) : Formatted where
  size := maxStringLength
  text :=
    match linePrefix with
    | none => sprintf "%7.3f> %s\n" [.double elapsed, .string string]
    | some linePrefix => sprintf "%7.3f> %s%s\n" [.double elapsed, .string linePrefix, .string string]

/-- The two arrays that a call of `debug` formats into. -/
def debug (elapsed : Int) (debugString : String) (arguments : List Argument) : List Formatted :=
  let outputString : Formatted := ⟨maxStringLength, sprintf debugString arguments⟩
  [outputString, writeLine elapsed none outputString.text]

/-- The number of bytes that the running time takes in a line; there are at least seven. -/
def elapsedWidth (elapsed : Int) : Nat := (Argument.double elapsed).bytes.length

theorem fits_debug_iff (elapsed : Int) (debugString : String) (arguments : List Argument) :
    (∀ buffer ∈ debug elapsed debugString arguments, buffer.Fits) ↔
      elapsedWidth elapsed + (sprintf debugString arguments).length ≤ 508 := by
  have line : (writeLine elapsed none (sprintf debugString arguments)).text.length =
      3 + (elapsedWidth elapsed + (sprintf debugString arguments).length) :=
    length_sprintf (by rfl) (by decide)
  simp only [debug, List.forall_mem_cons, List.not_mem_nil, false_implies, implies_true, and_true, Formatted.Fits, line]
  simp only [writeLine, maxStringLength]
  omega

end Common

end LanMessenger
