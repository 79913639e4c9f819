/-!
# Fnv — the 32-bit FNV-1a hash of a text

The hash walks the UTF-8 bytes of a text: each byte is mixed in with an exclusive or, then the
state is multiplied by the FNV prime modulo 2^32.
-/

namespace NamedLock

namespace Fnv

/-- The state before the first byte. -/
def basis : UInt32 := 0x811c9dc5

/-- The multiplier of every step; it is odd, so a step loses nothing. -/
def prime : UInt32 := 0x01000193

/-- Mixes one byte into the state. -/
def step (h : UInt32) (b : UInt8) : UInt32 := (h ^^^ b.toUInt32) * prime

/-- Mixes bytes into the state, first byte first. -/
def absorb (h : UInt32) (bytes : List UInt8) : UInt32 := bytes.foldl step h

/-- The UTF-8 encoding of a text. -/
def bytes (s : String) : List UInt8 := s.toUTF8.data.toList

/-- The hash of a text, its 32 bits read as a signed integer. -/
def hash (s : String) : Int32 := (absorb basis (bytes s)).toInt32

theorem absorb_append (h : UInt32) (a b : List UInt8) :
    absorb h (a ++ b) = absorb (absorb h a) b := by
  simp [absorb]

end Fnv

end NamedLock
