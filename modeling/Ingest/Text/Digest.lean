/-!
Texts as numbers of 64 bits. Different texts may have the same number.
-/

namespace Ingest.Text

/-- Mixes a byte into the digest of those before it. -/
def mix (h : UInt64) (byte : UInt8) : UInt64 := (h ^^^ byte.toUInt64) * 0x100000001b3

/-- The FNV-1a digest of a text in UTF-8. -/
def digest (s : String) : UInt64 :=
  (s.toList.flatMap String.utf8EncodeChar).foldl mix 0xcbf29ce484222325

end Ingest.Text
