import GuestNet.ResultCode
import GuestNet.IoError

/-! Every failure of the host, by cause. A guest only ever sees `DriverError.code`; the wording is
in `DriverError.message`. -/
namespace GuestNet

/-- Why an HTTP exchange or the transfer of its body failed. -/
inductive HttpFailure where
  | builder (url : String)
  | sending (url : String)
  | redirecting (url : String)
  | body
deriving DecidableEq, Repr

def HttpFailure.message : HttpFailure → String
  | builder url => "builder error for url (" ++ url ++ ")"
  | sending url => "error sending request for url (" ++ url ++ ")"
  | redirecting url => "error following redirect for url (" ++ url ++ ")"
  | body => "error decoding response body"

inductive DriverError where
  /-- The handle was never issued or is closed. -/
  | badHandle (handle : UInt32)
  | badParams (reason : String)
  | driverNotFound (scheme : String)
  | permissionDenied (target : String)
  | tooManyHandles (limit : Nat)
  | connect (target : String) (source : IoError)
  | request (target : String) (source : HttpFailure)
  | io (source : IoError)
  | transfer (source : HttpFailure)
  | unsupported (operation : String)
  | headerNotFound (name : String)
  /-- A call that must not wait has nothing to do yet. -/
  | tryAgain
  | memoryAccess (reason : String)
deriving DecidableEq, Repr

namespace DriverError

def message : DriverError → String
  | badHandle handle => "Bad handle: " ++ toString handle
  | badParams reason => "Bad parameters: " ++ reason
  | driverNotFound scheme => "No driver registered for scheme '" ++ scheme ++ "'"
  | permissionDenied target => "Access to '" ++ target ++ "' is not permitted"
  | tooManyHandles limit => "Too many open handles (limit " ++ toString limit ++ ")"
  | connect target source => "Failed to connect to '" ++ target ++ "': " ++ source.message
  | request target source => "Request to '" ++ target ++ "' failed: " ++ source.message
  | io source => "I/O error: " ++ source.message
  | transfer source => "Body transfer failed: " ++ source.message
  | unsupported operation => "Operation '" ++ operation ++ "' is not supported by this handle"
  | headerNotFound name => "Header '" ++ name ++ "' not found"
  | tryAgain => "Resource temporarily unavailable"
  | memoryAccess reason => "Memory access error: " ++ reason

/-- The code that a guest gets. Outside memory counts as bad parameters, and an input or output
that would block as a call to repeat. -/
def code : DriverError → ResultCode
  | badHandle _ => .badHandle
  | badParams _ => .badParams
  | memoryAccess _ => .badParams
  | driverNotFound _ => .driverNotFound
  | permissionDenied _ => .permissionDenied
  | tooManyHandles _ => .tooManyHandles
  | connect _ _ => .openFailed
  | request _ _ => .openFailed
  | io source => if source.isWouldBlock then .tryAgain else .ioFailure
  | transfer _ => .ioFailure
  | unsupported _ => .unsupported
  | headerNotFound _ => .headerNotFound
  | tryAgain => .tryAgain

/-- The text of the failure beneath, where there is one. -/
def sourceMessage? : DriverError → Option String
  | connect _ source => some source.message
  | request _ source => some source.message
  | io source => some source.message
  | transfer source => some source.message
  | _ => none

/-- No failure is reported as success. -/
theorem code_value_neg (e : DriverError) : e.code.value < 0 := by
  cases e with
  | io source => by_cases h : source.isWouldBlock <;> simp [code, h, ResultCode.value]
  | _ => simp [code, ResultCode.value]

theorem code_ne_success (e : DriverError) : e.code ≠ .success := by
  intro h
  have hneg := e.code_value_neg
  rw [h] at hneg
  exact absurd hneg (Int.lt_irrefl 0)

end DriverError
end GuestNet
