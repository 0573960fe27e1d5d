/-!
# SHA-1

The digest with which a server shows that it has understood an opening handshake. The message is
padded to blocks of 64 bytes; each block is expanded to 80 words, which are mixed one after the
other into a state of five words.
-/

namespace Inbound.WebSocket.Sha1

/-- The five words of a digest. -/
structure Digest where
  a : UInt32
  b : UInt32
  c : UInt32
  d : UInt32
  e : UInt32
  deriving DecidableEq, Repr

/-- The digest before the first block. -/
def initial : Digest := ⟨0x67452301, 0xEFCDAB89, 0x98BADCFE, 0x10325476, 0xC3D2E1F0⟩

/-- Rotates a word to the left, by more than no bits and fewer than all. -/
def rotate (word bits : UInt32) : UInt32 :=
  (word <<< bits) ||| (word >>> (32 - bits))

/-- The bytes of a number, the highest first. -/
def bigEndian (width n : Nat) : List UInt8 :=
  (List.range width).reverse.map fun i => (n >>> (8 * i)).toUInt8

/-- The message with a one bit, zeros up to a whole number of blocks, and its length in bits. -/
def pad (bytes : List UInt8) : List UInt8 :=
  let zeros := (119 - bytes.length % 64) % 64
  bytes ++ 0x80 :: List.replicate zeros 0 ++ bigEndian 8 (8 * bytes.length)

/-- Bytes as words, four at a time. -/
def words : List UInt8 → List UInt32
  | a :: b :: c :: d :: rest =>
    ((a.toUInt32 <<< 24) ||| (b.toUInt32 <<< 16) ||| (c.toUInt32 <<< 8) ||| d.toUInt32)
      :: words rest
  | _ => []

/-- The 80 words of a block, given its 16 words. -/
def expand (block : List UInt32) : Array UInt32 :=
  (List.range 64).foldl (fun schedule i =>
    let word (offset : Nat) := schedule.getD (i + offset) 0
    schedule.push (rotate (word 13 ^^^ word 8 ^^^ word 2 ^^^ word 0) 1)) block.toArray

/-- How three words are mixed in a round, and the constant of the round. -/
def mixture (round : Nat) (b c d : UInt32) : UInt32 × UInt32 :=
  if round < 20 then ((b &&& c) ||| (~~~b &&& d), 0x5A827999)
  else if round < 40 then (b ^^^ c ^^^ d, 0x6ED9EBA1)
  else if round < 60 then ((b &&& c) ||| (b &&& d) ||| (c &&& d), 0x8F1BBCDC)
  else (b ^^^ c ^^^ d, 0xCA62C1D6)

/-- One round. -/
def step (digest : Digest) (round : Nat) (word : UInt32) : Digest :=
  let (mixed, constant) := mixture round digest.b digest.c digest.d
  ⟨rotate digest.a 5 + mixed + digest.e + constant + word, digest.a, rotate digest.b 30,
    digest.c, digest.d⟩

/-- Takes a block into the digest. -/
def compress (digest : Digest) (block : List UInt32) : Digest :=
  let schedule := expand block
  let mixed := (List.range 80).foldl
    (fun digest round => step digest round (schedule.getD round 0)) digest
  ⟨digest.a + mixed.a, digest.b + mixed.b, digest.c + mixed.c, digest.d + mixed.d,
    digest.e + mixed.e⟩

/-- Takes all blocks into the digest. -/
def compressAll (digest : Digest) (blocks : List UInt32) : Digest :=
  if _h : blocks = [] then digest
  else compressAll (compress digest (blocks.take 16)) (blocks.drop 16)
termination_by blocks.length
decreasing_by
  have := List.length_pos_iff.mpr _h
  simp only [List.length_drop]
  omega

/-- The digest of a message. -/
def hash (bytes : ByteArray) : ByteArray :=
  let digest := compressAll initial (words (pad bytes.data.toList))
  let words := [digest.a, digest.b, digest.c, digest.d, digest.e]
  ⟨(words.flatMap fun word => bigEndian 4 word.toNat).toArray⟩

end Inbound.WebSocket.Sha1
