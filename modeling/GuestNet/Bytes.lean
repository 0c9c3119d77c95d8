/-! Strings of bytes, and the texts that they encode. -/
namespace GuestNet

abbrev Bytes := List UInt8

namespace Bytes

def ofText (s : String) : Bytes := s.toByteArray.data.toList

/-- The text that bytes encode, if they encode one. -/
def decode? (bs : Bytes) : Option String := String.fromUTF8? ⟨bs.toArray⟩

end Bytes
end GuestNet
