import StarWatch.Bytes

/-!
# Keccak-256

The sponge with rate 1088 bits and the padding byte `0x01`, as the ledger uses
it; the later standard pads with `0x06`. The state is a 5 by 5 matrix of 64-bit
lanes, and lane `(x, y)` is entry `x + 5 * y`.
-/

namespace StarWatch.Keccak

abbrev Lanes := Vector UInt64 25

/-- Coordinates are read modulo five. -/
def lane (s : Lanes) (x y : Nat) : UInt64 :=
  s.get ⟨x % 5 + 5 * (y % 5), by omega⟩

def ofLanes (f : Nat → Nat → UInt64) : Lanes :=
  Vector.ofFn fun i => f (i.val % 5) (i.val / 5)

def rotateLeft (w : UInt64) (n : UInt64) : UInt64 :=
  (w <<< n) ||| (w >>> (64 - n))

/-- Rotation of each lane, in the order of the state. -/
def offsets : Vector UInt64 25 :=
  #v[0, 1, 62, 28, 27,
     36, 44, 6, 55, 20,
     3, 10, 43, 25, 39,
     41, 45, 15, 21, 8,
     18, 2, 61, 56, 14]

def roundConstants : List UInt64 :=
  [0x0000000000000001, 0x0000000000008082, 0x800000000000808a, 0x8000000080008000,
   0x000000000000808b, 0x0000000080000001, 0x8000000080008081, 0x8000000000008009,
   0x000000000000008a, 0x0000000000000088, 0x0000000080008009, 0x000000008000000a,
   0x000000008000808b, 0x800000000000008b, 0x8000000000008089, 0x8000000000008003,
   0x8000000000008002, 0x8000000000000080, 0x000000000000800a, 0x800000008000000a,
   0x8000000080008081, 0x8000000000008080, 0x0000000080000001, 0x8000000080008008]

/-- Adds to each lane the parity of two neighbouring columns. -/
def theta (s : Lanes) : Lanes :=
  let parity : Vector UInt64 5 := Vector.ofFn fun x =>
    lane s x 0 ^^^ lane s x 1 ^^^ lane s x 2 ^^^ lane s x 3 ^^^ lane s x 4
  let mix : Vector UInt64 5 := Vector.ofFn fun x =>
    let next := parity.get ⟨(x.val + 1) % 5, by omega⟩
    parity.get ⟨(x.val + 4) % 5, by omega⟩ ^^^ rotateLeft next 1
  ofLanes fun x y => lane s x y ^^^ mix.get ⟨x % 5, by omega⟩

/-- Rotates the lanes and moves lane `(x + 3y, x)` to `(x, y)`. -/
def rhoPi (s : Lanes) : Lanes :=
  ofLanes fun x y => rotateLeft (lane s (x + 3 * y) x) (lane offsets (x + 3 * y) x)

/-- The one step that is not linear, along each row. -/
def chi (s : Lanes) : Lanes :=
  ofLanes fun x y => lane s x y ^^^ (~~~(lane s (x + 1) y) &&& lane s (x + 2) y)

def round (s : Lanes) (constant : UInt64) : Lanes :=
  let t := chi (rhoPi (theta s))
  t.set 0 (t[0] ^^^ constant)

def permute (s : Lanes) : Lanes := roundConstants.foldl round s

/-- Bytes absorbed between two permutations. -/
def rate : Nat := 136

/-- A byte `0x01`, zeros to the end of the block, the last byte's top bit set. -/
def pad (message : Bytes) : Bytes :=
  let zeros := rate - 1 - message.length % rate
  if zeros = 0 then message ++ [0x81]
  else message ++ 0x01 :: List.replicate (zeros - 1) 0 ++ [0x80]

/-- A lane is written least significant byte first. -/
def ofLittleEndian (bs : Bytes) : UInt64 :=
  bs.foldr (fun b w => (w <<< 8) ||| b.toUInt64) 0

def toLittleEndian (w : UInt64) : Bytes :=
  (List.range 8).map fun i => (w >>> UInt64.ofNat (8 * i)).toUInt8

def addBlock (s : Lanes) (block : Bytes) : Lanes :=
  Vector.ofFn fun i => s[i] ^^^ ofLittleEndian ((block.drop (8 * i.val)).take 8)

def absorb : Nat → Lanes → Bytes → Lanes
  | 0, s, _ => s
  | n + 1, s, bs => absorb n (permute (addBlock s (bs.take rate))) (bs.drop rate)

/-- The 32-byte digest of a message. -/
def digest (message : Bytes) : Bytes :=
  let padded := pad message
  let s := absorb (padded.length / rate) (Vector.replicate 25 0) padded
  (s.toList.take 4).flatMap toLittleEndian

end StarWatch.Keccak
