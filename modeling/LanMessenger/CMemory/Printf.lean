import LanMessenger.CMemory.CString
import Mathlib.Data.Nat.Digits.Defs

namespace CMemory

/-- What a format string is made of. Of the conversions there are `%s`, `%d` and `%7.3f`. -/
inductive Directive
  | char (c : Char)
  | string
  | int
  | double
deriving DecidableEq

/-- A string is given by the bytes before its NUL, and a `double` by the number of thousandths it is rounded to. -/
inductive Argument
  | string (text : List Byte)
  | int (value : Int)
  | double (thousandths : Int)

def directives : List Char → List Directive
  | '%' :: 's' :: rest => .string :: directives rest
  | '%' :: 'd' :: rest => .int :: directives rest
  | '%' :: '7' :: '.' :: '3' :: 'f' :: rest => .double :: directives rest
  | c :: rest => .char c :: directives rest
  | [] => []

def decimal (value : Int) : List Byte :=
  (if value < 0 then ascii ['-'] else []) ++ ascii (Nat.toDigits 10 value.natAbs)

def justified (width : Nat) (text : List Byte) : List Byte := List.replicate (width - text.length) 32#8 ++ text

/-- `%.3f`: three digits stand behind the point. -/
def fixed (thousandths : Int) : List Byte :=
  (if thousandths < 0 then ascii ['-'] else []) ++ ascii (Nat.toDigits 10 (thousandths.natAbs / 1000)) ++
    ascii ['.', Nat.digitChar (thousandths.natAbs / 100 % 10), Nat.digitChar (thousandths.natAbs / 10 % 10),
      Nat.digitChar (thousandths.natAbs % 10)]

namespace Argument

def directive : Argument → Directive
  | string _ => .string
  | int _ => .int
  | double _ => .double

def bytes : Argument → List Byte
  | string text => text
  | int value => decimal value
  | double thousandths => justified 7 (fixed thousandths)

end Argument

/-- Conversions without an argument of their kind are left out; for C they are undefined. -/
def vsprintf : List Directive → List Argument → List Byte
  | [], _ => []
  | .char c :: format, arguments => BitVec.ofNat 8 c.toNat :: vsprintf format arguments
  | conversion :: format, argument :: arguments =>
    (if argument.directive = conversion then argument.bytes else []) ++ vsprintf format arguments
  | _ :: format, [] => vsprintf format []

/-- What `sprintf` puts in front of its NUL. -/
def sprintf (format : String) (arguments : List Argument) : List Byte := vsprintf (directives format.toList) arguments

def Directive.converts : Directive → Bool
  | char _ => false
  | _ => true

theorem vsprintf_conversion {argument : Argument} {conversion : Directive} (same : conversion = argument.directive)
    (format : List Directive) (arguments : List Argument) :
    vsprintf (conversion :: format) (argument :: arguments) = argument.bytes ++ vsprintf format arguments := by
  subst same
  cases argument <;> exact congrArg (· ++ _) (if_pos rfl)

theorem length_vsprintf {format : List Directive} {arguments : List Argument}
    (matching : format.filter Directive.converts = arguments.map Argument.directive) :
    (vsprintf format arguments).length =
      (format.filter (!·.converts)).length + (arguments.map (·.bytes.length)).sum := by
  induction format generalizing arguments with
  | nil =>
    rw [List.filter_nil, eq_comm, List.map_eq_nil_iff] at matching
    subst matching
    rfl
  | cons directive format ih =>
    cases converts : directive.converts with
    | false =>
      cases directive with
      | char c =>
        have rest := ih matching
        show (vsprintf format arguments).length + 1 = (format.filter (!·.converts)).length + 1 + _
        omega
      | _ => cases converts
    | true =>
      rw [List.filter_cons, if_pos converts] at matching
      cases arguments with
      | nil => cases matching
      | cons argument arguments =>
        obtain ⟨same, others⟩ := List.cons.inj matching
        have rest := ih others
        rw [vsprintf_conversion same, List.length_append, rest, List.filter_cons, if_neg (by simp [converts]), List.map_cons,
          List.sum_cons]
        omega

theorem length_sprintf {format : String} {arguments : List Argument} {characters : Nat}
    (matching : (directives format.toList).filter Directive.converts = arguments.map Argument.directive)
    (counted : ((directives format.toList).filter (!·.converts)).length = characters) :
    (sprintf format arguments).length = characters + (arguments.map (·.bytes.length)).sum := by
  rw [sprintf, length_vsprintf matching, counted]

end CMemory
