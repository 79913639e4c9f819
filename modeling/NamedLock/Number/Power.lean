/-!
# Power — powers of two and of ten

The bounds of machine integers and the scales of numbers are powers of two or of ten.
-/

namespace NamedLock

namespace Number

/-- A power of two. -/
def pow2 (n : Nat) : Nat := Nat.pow 2 n

/-- A power of ten. -/
def pow10 (n : Nat) : Nat := Nat.pow 10 n

end Number

end NamedLock
