/-
# POLYVAL

The universal hash under the tag of a sealed value: a polynomial in a secret element
of the field of `2^128` elements, its coefficients the blocks of the message.  An
element is 128 bits, the lowest bit of the first byte its constant term.
-/

import ServiceBroker.Crypto.Aes256

namespace ServiceBroker
namespace Polyval

/-- An element of the field, modulo `x^128 + x^127 + x^126 + x^121 + 1`. -/
abbrev Element := BitVec 128

/-- An element divided by `x`. -/
def divX (v : Element) : Element :=
  (v >>> 1) ^^^ (if v.getLsbD 0 then 0xe1000000000000000000000000000000#128 else 0)

/-- The product of two elements divided by `x^128`. -/
def dot (a b : Element) : Element :=
  (List.range 128).foldl (fun acc i => divX (if a.getLsbD i then acc ^^^ b else acc)) 0

/-- The element that a block spells, the first byte lowest. -/
def ofBlock (block : Block) : Element :=
  BitVec.ofNat 128 (block.foldr (fun b acc => acc * 256 + b.toNat) 0)

/-- The bytes of an element, the lowest first. -/
def toBlock (v : Element) : Block :=
  Vector.ofFn fun i : Fin 16 => UInt8.ofNat (v.toNat >>> (8 * i.val))

/-- The hash of blocks under a key. -/
def hash (key : Block) (blocks : List Block) : Block :=
  let h := ofBlock key
  toBlock (blocks.foldl (fun acc block => dot (acc ^^^ ofBlock block) h) 0)

end Polyval
end ServiceBroker
