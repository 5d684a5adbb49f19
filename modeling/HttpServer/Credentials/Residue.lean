/-!
# Arithmetic of remainders

The keys of a server are computed with remainders of natural numbers. This module holds what is
needed besides sums and products: differences, inverses, and the bits of a number.
-/

namespace HttpServer.Residue

def difference (modulus left right : Nat) : Nat := (left + (modulus - right % modulus)) % modulus

/-- Goes down the remainders of two numbers to the last that is not zero, and gives the multiple of
the value of which it is the remainder. Each remainder goes with such a multiple. -/
def descend (upper lower : Nat) (upperFactor lowerFactor : Int) : Int :=
  if lower = 0 then upperFactor
  else
    descend lower (upper % lower) lowerFactor (upperFactor - (upper / lower : Nat) * lowerFactor)
termination_by lower
decreasing_by exact Nat.mod_lt _ (Nat.pos_of_ne_zero ‹_›)

/-- The number whose product with a value leaves the remainder one, if the value shares no divisor
with the modulus. -/
def inverse (modulus value : Nat) : Nat :=
  (descend modulus (value % modulus) 0 1 % (modulus : Int)).toNat

/-- The bits of a number, from the greatest one on, as many as are asked for. -/
def bitsOf (count number : Nat) : List Bool := (List.range count).reverse.map number.testBit

def bitCount (number : Nat) : Nat := if number = 0 then 0 else Nat.log2 number + 1

/-- The sum of a number of equal terms, by doubling: each bit of the number doubles what there is,
and a set one adds the term. -/
def multiple {α : Type} (add : α → α → α) (zero term : α) (bits : List Bool) : α :=
  bits.foldl (fun sum bit => if bit then add (add sum sum) term else add sum sum) zero

end HttpServer.Residue
