/-!
# Ids of requests

A caller may name its request in a header. The name is taken over when it is plain text; any other
request gets a minted id.
-/

namespace RunnerFleet

/-- Whether a byte of a header is plain text: a visible character of ASCII, a blank or a tab. -/
def isPlainHeaderByte (b : UInt8) : Bool := (0x20 ≤ b && b < 0x7f) || b == 0x09

/-- The id in a caller's header, if it can be taken over. -/
def callerRequestId? (header : List UInt8) : Option String :=
  if header.isEmpty || !header.all isPlainHeaderByte then none
  else some (String.ofList (header.map fun b => Char.ofNat b.toNat))

end RunnerFleet
