/-!
# Hash of a byte string

A hash of 64 bits that depends on the bytes alone. Two lanes start from fixed seeds. Long strings
are read in blocks of sixteen bytes; each block is mixed into the lanes by a product of 128 bits
whose halves are combined, so that no bit of it is lost. The last sixteen bytes, which may
overlap the last block, or all bytes of a short string, go into the lanes directly. The lanes are
then mixed with one another and with the length, and the bits are spread by a multiplication and
a rotation.
-/

namespace ScriptValues.StringHash

def littleEndian : List UInt8 → Nat
  | [] => 0
  | byte :: bytes => byte.toNat + 256 * littleEndian bytes

def word (bytes : List UInt8) : UInt64 :=
  UInt64.ofNat (littleEndian bytes)

def foldedProduct (x y : UInt64) : UInt64 :=
  UInt64.ofNat (x.toNat * y.toNat) ^^^ UInt64.ofNat (x.toNat * y.toNat / UInt64.size)

structure Lanes where
  first : UInt64
  second : UInt64
  deriving DecidableEq, Repr

namespace Lanes

def seed : Lanes where
  first := 0x243F6A8885A308D3
  second := 0x13198A2E03707344

/-- Keeps a block of zeros from erasing what came before it. -/
def blockMask : UInt64 := 0xA4093822299F31D0

def absorbBlock (lanes : Lanes) (block : List UInt8) : Lanes where
  first := lanes.second
  second := foldedProduct (lanes.first ^^^ word (block.take 8)) (blockMask ^^^ word (block.drop 8))

def absorb : Nat → List UInt8 → Lanes → Lanes
  | 0, _, lanes => lanes
  | count + 1, bytes, lanes => absorb count (bytes.drop 16) (lanes.absorbBlock (bytes.take 16))

def add (lanes : Lanes) (x y : UInt64) : Lanes where
  first := lanes.first ^^^ x
  second := lanes.second ^^^ y

end Lanes

def lanes (bytes : List UInt8) : Lanes :=
  let size := bytes.length
  if 16 < size then
    (Lanes.seed.absorb ((size - 1) / 16) bytes).add (word ((bytes.drop (size - 16)).take 8))
      (word (bytes.drop (size - 8)))
  else if 8 ≤ size then
    Lanes.seed.add (word (bytes.take 8)) (word (bytes.drop (size - 8)))
  else if 4 ≤ size then
    Lanes.seed.add (word (bytes.take 4)) (word (bytes.drop (size - 4)))
  else
    match bytes with
    | [a] => Lanes.seed.add (word [a]) (word [a, a])
    | [a, b] => Lanes.seed.add (word [a]) (word [b, b])
    | [a, b, c] => Lanes.seed.add (word [a]) (word [b, c])
    | _ => Lanes.seed

def digest (bytes : List UInt8) : UInt64 :=
  foldedProduct (lanes bytes).first (lanes bytes).second ^^^ UInt64.ofNat bytes.length

/-- An odd number, so that multiplying by it loses nothing. -/
def multiplier : UInt64 := 0xF1357AEA2E62A9C5

def rotate (x : UInt64) : UInt64 :=
  x <<< 26 ||| x >>> 38

def hash (bytes : List UInt8) : UInt64 :=
  rotate (digest bytes * multiplier)

example : hash [0x61] = 0xBD8E8067B4BE2F50 := by decide +kernel

example : hash ((List.range 40).map UInt8.ofNat) = 0x1CF6C75D0A8FECDC := by decide +kernel

end ScriptValues.StringHash
