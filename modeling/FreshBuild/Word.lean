/-
# FreshBuild.Word — machine words and the integers they hold.

A word of a width holds a range of integers, from zero up or around zero. Everything that asks
whether a number fits asks here.
-/

namespace FreshBuild.Word

/-- The number of values of a word with `bits` bits. -/
def size (bits : Nat) : Nat := Nat.pow 2 bits

/-- The integer fits an unsigned word. -/
def holds (bits : Nat) (n : Int) : Bool :=
  decide (0 ≤ n) && decide (n < Int.ofNat (size bits))

/-- The integer fits a signed word in two's complement. -/
def holdsSigned (bits : Nat) (n : Int) : Bool :=
  decide (-Int.ofNat (size (bits - 1)) ≤ n) && decide (n < Int.ofNat (size (bits - 1)))

end FreshBuild.Word
