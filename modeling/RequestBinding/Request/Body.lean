/-! Bodies of requests: chunks of bytes that can be taken once. -/

namespace RequestBinding

/-- What arrives of a body at once: bytes, or a failure to read any further. -/
inductive Chunk
  | data (bytes : List UInt8)
  | failure (message : String)
deriving DecidableEq, Repr

inductive Body
  | empty
  | ready (chunks : List Chunk)
  | taken
deriving DecidableEq, Repr

inductive BodyFault
  | tooLarge (limit : Nat)
  | read (message : String)
deriving DecidableEq, Repr

def BodyFault.message : BodyFault → String
  | tooLarge limit => "payload too large: limit is " ++ toString limit ++ " bytes"
  | read message => "failed to read request body: " ++ message

namespace Body

/-- The body that fixed bytes make; no bytes make none. -/
def ofBytes (bytes : List UInt8) : Body := if bytes = [] then empty else ready [.data bytes]

def take : Body → Option (List Chunk) × Body
  | ready chunks => (some chunks, taken)
  | other => (none, other)

def isReady : Body → Bool
  | ready _ => true
  | _ => false

def isTaken : Body → Bool
  | taken => true
  | _ => false

end Body

namespace Chunk

/-- Reads chunks to their end behind bytes already read, as long as no more than `limit` bytes come together. -/
def readOnto (limit : Nat) (done : List UInt8) : List Chunk → Except BodyFault (List UInt8)
  | [] => .ok done
  | .failure message :: _ => .error (.read message)
  | .data bytes :: rest =>
    if done.length + bytes.length ≤ limit then readOnto limit (done ++ bytes) rest else .error (.tooLarge limit)

def readWithin (limit : Nat) (chunks : List Chunk) : Except BodyFault (List UInt8) := readOnto limit [] chunks

end Chunk
end RequestBinding
