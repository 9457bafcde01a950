import MoveClient.Hash.Sha3

/-!
Keyed hashing with SHA3-256.
-/

namespace MoveClient.Hmac

/-- A key filled up with zeros to a whole block; a key longer than a block is hashed first. -/
def blockKey (key : Bytes) : Bytes :=
  let short := if Sha3.blockSize < key.length then Sha3.hash key else key
  short ++ List.replicate (Sha3.blockSize - short.length) 0

/-- The HMAC of a byte string under a key. -/
def hash (key input : Bytes) : Bytes :=
  let block := blockKey key
  Sha3.hash (block.map (· ^^^ 0x5c) ++ Sha3.hash (block.map (· ^^^ 0x36) ++ input))

end MoveClient.Hmac
