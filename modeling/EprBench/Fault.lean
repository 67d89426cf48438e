/-! Why a request is not carried out. A rehearsal refuses a request with a reason; a live session stops the script. -/
namespace EprBench

inductive SettingsFault where
  | noSection
  | noOption
  | duplicateSection
  | duplicateOption
  | missingHeader
  | unreadableLine
  | unknownReference
  | badReference
  | endlessReference
  deriving Repr, DecidableEq

inductive Fault where
  /-- A rehearsal check failed; `reason` is shown to the user. -/
  | refused (reason : String)
  | stopped
  | ended
  | wrongType
  | wrongValue
  | notEncoded
  | outOfRange
  | noKey
  | noName
  | notAssigned
  | noMember
  | divisionByZero
  | overflow
  | runtime
  | endless
  | misfit
  | fileMissing
  | fileExists
  | notAFile
  | notSupported
  | settings (fault : SettingsFault)
  | system
  | pipeBroken
  | timedOut
  | serialLost
  | lineError
  | other (name : String)
  deriving Repr, DecidableEq

namespace Fault

def isSystem : Fault → Bool
  | .system | .pipeBroken | .timedOut | .serialLost | .fileMissing | .fileExists | .notAFile => true
  | _ => false

def isValue : Fault → Bool
  | .wrongValue | .notEncoded | .notSupported => true
  | _ => false

end Fault

abbrev Outcome := Except Fault

def ensure (condition : Bool) (reason : String) : Outcome Unit :=
  if condition then .ok () else .error (.refused reason)

end EprBench
