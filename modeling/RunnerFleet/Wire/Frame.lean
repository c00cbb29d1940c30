/-!
# Frames of a stream

A message travels in a frame: a flag that has to be zero, the length in four bytes, the most
significant first, and the message. A stream arrives in pieces of any size.
-/

namespace RunnerFleet.Wire

/-- The longest message that is accepted. -/
def maxMessageLength : Nat := 4194304

/-- What stands at the front of the bytes of a stream. -/
inductive Front where
  /-- The beginning of a frame, or nothing. -/
  | incomplete
  /-- No frame can begin so. -/
  | broken
  | message (bytes rest : List UInt8)
  deriving DecidableEq, Repr

/-- Looks at the front of the bytes that have arrived. -/
def frontOf : List UInt8 → Front
  | flag :: a :: b :: c :: d :: rest =>
    let length := ((a.toNat * 256 + b.toNat) * 256 + c.toNat) * 256 + d.toNat
    if flag ≠ 0 ∨ length > maxMessageLength then .broken
    else if rest.length < length then .incomplete
    else .message (rest.take length) (rest.drop length)
  | _ => .incomplete

/-- A message in its frame. -/
def frame (message : List UInt8) : List UInt8 :=
  let n := message.length
  [0, UInt8.ofNat (n / 16777216), UInt8.ofNat (n / 65536), UInt8.ofNat (n / 256), UInt8.ofNat n] ++
    message

end RunnerFleet.Wire
