import TunnelServer.Bytes.BigEndian

/-!
# SHA-1

The message digest that keys and packet signatures are made of.  Nothing outside this module looks
into it; the laws of packets use only that a digest has twenty octets.
-/

namespace TunnelServer.Sha1

/-- The five words that are carried from block to block. -/
structure Chain where
  a : UInt32
  b : UInt32
  c : UInt32
  d : UInt32
  e : UInt32

namespace Chain

/-- The chaining value before the first block. -/
def initial : Chain :=
  ⟨0x67452301, 0xefcdab89, 0x98badcfe, 0x10325476, 0xc3d2e1f0⟩

/-- Word by word sum. -/
def add (left right : Chain) : Chain :=
  ⟨left.a + right.a, left.b + right.b, left.c + right.c, left.d + right.d, left.e + right.e⟩

/-- The twenty octets of a chaining value. -/
def octets (chain : Chain) : Bytes :=
  [chain.a, chain.b, chain.c, chain.d, chain.e].flatMap fun word => BigEndian.encode 4 word.toNat

end Chain

/-- Rotation of a word to the left, by 1 to 31 places. -/
def rotateLeft (word places : UInt32) : UInt32 :=
  word <<< places ||| word >>> (32 - places)

/-- The message, a one bit, zeros up to eight octets short of a block, and the bit length. -/
def pad (message : Bytes) : Bytes :=
  message ++ 0x80 :: List.replicate ((119 - message.length % 64) % 64) 0 ++
    BigEndian.encode 8 (8 * message.length)

/-- Octets taken four at a time. -/
def words : Bytes → List UInt32
  | first :: second :: third :: fourth :: rest =>
    UInt32.ofNat (BigEndian.decode [first, second, third, fourth]) :: words rest
  | _ => []

/-- Adds `count` scheduled words to the front of a list that holds the latest word first. -/
def extend : Nat → List UInt32 → List UInt32
  | 0, latest => latest
  | count + 1, latest =>
    let next := latest.getD 2 0 ^^^ latest.getD 7 0 ^^^ latest.getD 13 0 ^^^ latest.getD 15 0
    extend count (rotateLeft next 1 :: latest)

/-- The eighty words that a block of sixteen is stretched to. -/
def schedule (block : List UInt32) : List UInt32 :=
  (extend 64 block.reverse).reverse

/-- The function of three words and the constant that a round uses. -/
def roundParameters (round : Nat) (b c d : UInt32) : UInt32 × UInt32 :=
  if round < 20 then (b &&& c ||| ~~~b &&& d, 0x5a827999)
  else if round < 40 then (b ^^^ c ^^^ d, 0x6ed9eba1)
  else if round < 60 then (b &&& c ||| b &&& d ||| c &&& d, 0x8f1bbcdc)
  else (b ^^^ c ^^^ d, 0xca62c1d6)

/-- One of the eighty rounds. -/
def step (chain : Chain) (word : UInt32) (round : Nat) : Chain :=
  let (mixed, constant) := roundParameters round chain.b chain.c chain.d
  ⟨rotateLeft chain.a 5 + mixed + chain.e + constant + word, chain.a, rotateLeft chain.b 30,
    chain.c, chain.d⟩

/-- Takes one block of sixteen words into the chaining value. -/
def compress (chain : Chain) (block : List UInt32) : Chain :=
  chain.add ((schedule block).zipIdx.foldl (fun chain (word, round) => step chain word round) chain)

/-- Takes in a number of blocks, one after the other. -/
def compressAll : Nat → Chain → List UInt32 → Chain
  | 0, chain, _ => chain
  | blocks + 1, chain, message =>
    compressAll blocks (compress chain (message.take 16)) (message.drop 16)

/-- The digest of a message. -/
def digest (message : Bytes) : Bytes :=
  let message := words (pad message)
  (compressAll (message.length / 16) Chain.initial message).octets

/-- A digest has twenty octets. -/
@[simp]
theorem length_digest (message : Bytes) : (digest message).length = 20 := by
  simp [digest, Chain.octets]

end TunnelServer.Sha1
