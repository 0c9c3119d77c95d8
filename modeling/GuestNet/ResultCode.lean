/-! The signed result codes that cross from the host to a guest: zero is success and every failure
is negative. A code is read back from its number by `ofValue?`. -/
namespace GuestNet

inductive ResultCode where
  | success
  | badHandle
  | badParams
  | openFailed
  | ioFailure
  | unsupported
  | tryAgain
  | driverNotFound
  | permissionDenied
  | tooManyHandles
  | headerNotFound
deriving DecidableEq, Repr

namespace ResultCode

def value : ResultCode → Int
  | success => 0
  | badHandle => -1
  | badParams => -2
  | openFailed => -3
  | ioFailure => -4
  | unsupported => -5
  | tryAgain => -6
  | driverNotFound => -7
  | permissionDenied => -8
  | tooManyHandles => -9
  | headerNotFound => -10

def all : List ResultCode :=
  [success, badHandle, badParams, openFailed, ioFailure, unsupported, tryAgain, driverNotFound,
    permissionDenied, tooManyHandles, headerNotFound]

/-- No code stands for a number outside the table. -/
def ofValue? (n : Int) : Option ResultCode := all.find? (·.value == n)

def isSuccess (c : ResultCode) : Bool := c == success

def phrase : ResultCode → String
  | success => "success"
  | badHandle => "bad handle"
  | badParams => "bad parameters"
  | openFailed => "open failed"
  | ioFailure => "i/o failure"
  | unsupported => "unsupported operation"
  | tryAgain => "try again"
  | driverNotFound => "driver not found"
  | permissionDenied => "permission denied"
  | tooManyHandles => "too many handles"
  | headerNotFound => "header not found"

/-- The phrase and, in brackets, the number. -/
def message (c : ResultCode) : String := c.phrase ++ " (" ++ toString c.value ++ ")"

theorem ofValue?_value (c : ResultCode) : ofValue? c.value = some c := by
  cases c <;> rfl

end ResultCode
end GuestNet
