/-!
Digits and the numbers they spell, in bases up to sixteen.
-/

namespace GraphSchema.Text

def digit? (c : Char) : Option Nat :=
  if c.isDigit then some (c.toNat - '0'.toNat)
  else if 'a' ≤ c && c ≤ 'f' then some (c.toNat - 'a'.toNat + 10)
  else if 'A' ≤ c && c ≤ 'F' then some (c.toNat - 'A'.toNat + 10)
  else none

/-- The number that digits spell; there must be at least one. -/
def number? (base : Nat) (digits : List Char) : Option Nat :=
  if digits = [] then none
  else digits.foldlM (fun total c => do
    let digit ← digit? c
    if digit < base then some (total * base + digit) else none) 0

/-- The character of a code point, surrogates excluded. -/
def charOfCode? (code : Nat) : Option Char :=
  if code.isValidChar then some (Char.ofNat code) else none

def charOfHex? (digits : List Char) : Option Char := (number? 16 digits).bind charOfCode?

theorem repr_chars_inj {left right : Nat} (same : left.repr.toList = right.repr.toList) :
    left = right := by
  have values := congrArg (fun digits => Nat.ofDigitChars 10 digits 0) same
  simpa [Nat.repr_eq_ofList_toDigits] using values

theorem digits_of_repr {number : Nat} {c : Char} (member : c ∈ number.repr.toList) :
    c.isDigit = true := by
  rw [Nat.repr_eq_ofList_toDigits, String.toList_ofList] at member
  exact Nat.isDigit_of_mem_toDigits (by decide) (by decide) member

end GraphSchema.Text
