import CacheSeal.Header.Basic

/-!
The part of a cache that its checksum covers.
-/

namespace CacheSeal.Cache

/-- Everything behind the aligned header, bytes beyond the declared payload included. -/
def region (layout : Layout) (buffer : Bytes) : Bytes :=
  buffer.drop layout.headerSize

/-- What the header declares is not what follows it. -/
def lengthNotice? (layout : Layout) (header : Header) (size : Nat) : Option String :=
  let present : Int := size - layout.headerSize
  if header.payloadLength = present then none
  else some s!"Declared payload length {header.payloadLength} differs from {present} bytes after the header"

end CacheSeal.Cache
