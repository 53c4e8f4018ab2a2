import Mathlib.Algebra.GroupWithZero.Nat
import Mathlib.Data.List.Basic

set_option autoImplicit false

namespace SchwabGateway.Python

-- A str as Python has it: a sequence of code points, surrogates included.
abbrev CodePoint := Fin 0x110000

instance codePointsNonzero : NeZero 0x110000 := ⟨by decide⟩

abbrev Text := List CodePoint

def CodePoint.isHighSurrogate (point : CodePoint) : Bool := 0xD800 ≤ point.val && point.val ≤ 0xDBFF

def CodePoint.isLowSurrogate (point : CodePoint) : Bool := 0xDC00 ≤ point.val && point.val ≤ 0xDFFF

def Text.encodable (text : Text) : Bool :=
  text.all (fun point => !point.isHighSurrogate && !point.isLowSurrogate)

def asciiText (text : String) : Text := text.toList.map (fun c => Fin.ofNat 0x110000 c.toNat)

def Text.isAscii (text : Text) : Bool := text.all (fun point => point.val < 128)

theorem ascii_encodable (text : Text) (ascii : text.isAscii = true) : text.encodable = true := by
  rw [Text.isAscii, List.all_eq_true] at ascii
  rw [Text.encodable, List.all_eq_true]
  intro point member
  have small : point.val < 128 := by simpa using ascii point member
  have high : point.isHighSurrogate = false := by
    rw [CodePoint.isHighSurrogate, decide_eq_false (by omega), Bool.false_and]
  have low : point.isLowSurrogate = false := by
    rw [CodePoint.isLowSurrogate, decide_eq_false (by omega), Bool.false_and]
  rw [high, low]
  rfl

end SchwabGateway.Python
