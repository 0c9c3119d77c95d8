/-! Handles: the numbers by which a guest names its connections. -/
namespace GuestNet

abbrev Handle := UInt32

namespace Handle

def first : Handle := 1

def greatest : Handle := 2147483647

/-- The handle after another one, around from the greatest to the first. -/
def following (h : Handle) : Handle := if greatest ≤ h then first else h + 1

end Handle
end GuestNet
