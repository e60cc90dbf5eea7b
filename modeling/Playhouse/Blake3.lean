/-!
# BLAKE3

The 32 byte digest of a byte string. The input is cut into chunks of 1024 bytes and a chunk into
blocks of 64 bytes. `compress` mixes a block into a chaining value of eight words; the chaining
values of the chunks are joined in pairs until one pair is left, whose join is the root.
-/

namespace Playhouse.Blake3

abbrev Chain := Vector UInt32 8

abbrev Words := Vector UInt32 16

def initial : Chain :=
  #v[0x6A09E667, 0xBB67AE85, 0x3C6EF372, 0xA54FF53A, 0x510E527F, 0x9B05688C, 0x1F83D9AB, 0x5BE0CD19]

def chunkStart : UInt32 := 1
def chunkEnd : UInt32 := 2
def parent : UInt32 := 4
def root : UInt32 := 8

def rotateRight (x n : UInt32) : UInt32 :=
  (x >>> n) ||| (x <<< (32 - n))

/-- Mixes two message words into four words of the state. -/
def mix (s : Words) (a b c d : Fin 16) (x y : UInt32) : Words :=
  let s := s.set a (s[a] + s[b] + x)
  let s := s.set d (rotateRight (s[d] ^^^ s[a]) 16)
  let s := s.set c (s[c] + s[d])
  let s := s.set b (rotateRight (s[b] ^^^ s[c]) 12)
  let s := s.set a (s[a] + s[b] + y)
  let s := s.set d (rotateRight (s[d] ^^^ s[a]) 8)
  let s := s.set c (s[c] + s[d])
  s.set b (rotateRight (s[b] ^^^ s[c]) 7)

/-- Columns first, then diagonals. -/
def round (s m : Words) : Words :=
  let s := mix s 0 4 8 12 m[0] m[1]
  let s := mix s 1 5 9 13 m[2] m[3]
  let s := mix s 2 6 10 14 m[4] m[5]
  let s := mix s 3 7 11 15 m[6] m[7]
  let s := mix s 0 5 10 15 m[8] m[9]
  let s := mix s 1 6 11 12 m[10] m[11]
  let s := mix s 2 7 8 13 m[12] m[13]
  mix s 3 4 9 14 m[14] m[15]

/-- The order of the message words in the next round. -/
def permute (m : Words) : Words :=
  #v[m[2], m[6], m[3], m[10], m[7], m[0], m[4], m[13], m[1], m[11], m[12], m[5], m[9], m[14],
    m[15], m[8]]

def rounds (s m : Words) : Nat → Words
  | 0 => s
  | n + 1 => rounds (round s m) (permute m) n

/-- The chaining value after a block of `length` bytes. -/
def compress (chain : Chain) (block : Words) (counter : UInt64) (length flags : UInt32) : Chain :=
  let s : Words :=
    #v[chain[0], chain[1], chain[2], chain[3], chain[4], chain[5], chain[6], chain[7],
      initial[0], initial[1], initial[2], initial[3],
      counter.toUInt32, (counter >>> 32).toUInt32, length, flags]
  let s := rounds s block 7
  Vector.ofFn fun (i : Fin 8) => s[i.val] ^^^ s[i.val + 8]

/-! ## Chunks -/

/-- The byte at an index, zero behind the end. -/
def byteAt (data : ByteArray) (i : Nat) : UInt32 :=
  if h : i < data.size then data[i].toUInt32 else 0

/-- The four bytes from `i` on, the first one lowest. -/
def wordAt (data : ByteArray) (i : Nat) : UInt32 :=
  byteAt data i ||| (byteAt data (i + 1) <<< 8) ||| (byteAt data (i + 2) <<< 16)
    ||| (byteAt data (i + 3) <<< 24)

def blockAt (data : ByteArray) (i : Nat) : Words :=
  Vector.ofFn fun (k : Fin 16) => wordAt data (i + 4 * k.val)

/-- Compresses `count` further blocks of a chunk. The last one gets `flags`. -/
def blocks (data : ByteArray) (counter : UInt64) (flags : UInt32) (chain : Chain) (start : Nat)
    (first : UInt32) : Nat → Chain
  | 0 => chain
  | count + 1 =>
    let length := min 64 (data.size - start)
    let last := if count = 0 then chunkEnd ||| flags else 0
    let next := compress chain (blockAt data start) counter (UInt32.ofNat length) (first ||| last)
    blocks data counter flags next (start + 64) 0 count

/-- The chaining value of a chunk. The empty input is one chunk with an empty block. -/
def chunk (data : ByteArray) (flags : UInt32) (index : Nat) : Chain :=
  let start := 1024 * index
  let length := min 1024 (data.size - start)
  blocks data (UInt64.ofNat index) flags initial start chunkStart (max 1 ((length + 63) / 64))

/-! ## The tree -/

def join (flags : UInt32) (left right : Chain) : Chain :=
  let block : Words :=
    #v[left[0], left[1], left[2], left[3], left[4], left[5], left[6], left[7],
      right[0], right[1], right[2], right[3], right[4], right[5], right[6], right[7]]
  compress initial block 0 64 (parent ||| flags)

/-- Joins neighbours. One that is left over moves up as it is. -/
def joinPairs : List Chain → List Chain
  | left :: right :: rest => join 0 left right :: joinPairs rest
  | rest => rest

/-- Joins until the last pair. A list of `n` chaining values needs fewer than `n` levels. -/
def joinAll : Nat → List Chain → Chain
  | _, [left, right] => join root left right
  | levels + 1, chains => joinAll levels (joinPairs chains)
  | 0, chains => chains.headD initial

def digest (data : ByteArray) : Chain :=
  let count := (data.size + 1023) / 1024
  if count ≤ 1 then chunk data root 0
  else joinAll count ((List.range count).map (chunk data 0))

/-! ## Text -/

def hexDigits (byte : UInt32) : List Char :=
  [Nat.digitChar (byte.toNat / 16 % 16), Nat.digitChar (byte.toNat % 16)]

/-- The bytes of a word, the lowest one first. -/
def hexWord (word : UInt32) : List Char :=
  hexDigits word ++ hexDigits (word >>> 8) ++ hexDigits (word >>> 16) ++ hexDigits (word >>> 24)

/-- The digest of a text in UTF-8, in lowercase hexadecimal digits. -/
def hex (s : String) : String :=
  String.ofList ((digest s.toUTF8).toList.flatMap hexWord)

end Playhouse.Blake3
