import RunnerFleet.Arbiter

/-!
# Failures of VM operations

Each constructor is a cause; `VmError.message` words it. A failure counts as not found when the VM
or its bundle is already gone.
-/

namespace RunnerFleet

/-- A failure of the file system or of a program that was to be run. -/
structure IoError where
  message : String
  isNotFound : Bool
  deriving DecidableEq, Repr

namespace IoError

def noSuchFile : IoError := ⟨"No such file or directory (os error 2)", true⟩

def fileExists : IoError := ⟨"File exists (os error 17)", false⟩

def notADirectory : IoError := ⟨"Not a directory (os error 20)", false⟩

/-- A failure that is described by words alone. -/
def other (message : String) : IoError := ⟨message, false⟩

end IoError

/-- Why a VM operation failed. -/
inductive VmError where
  | hypervisor (detail : String)
  | bootFailed (state : String)
  | bootTimeout (after : Span)
  | address (cause : ArbiterError)
  | sshTimeout (attempts : Nat)
  | setupScript (detail : String)
  | exec (detail : String)
  | notFound (id : RunnerId)
  | noAddress (id : RunnerId)
  | badMetadata
  | io (cause : IoError)
  deriving DecidableEq, Repr

namespace VmError

/-- The wording of a failure. -/
def message : VmError → String
  | hypervisor detail => "hypervisor error: " ++ detail
  | bootFailed state => "VM failed to start, state: " ++ state
  | bootTimeout after => "VM did not reach running state within " ++ after.text
  | address cause => "failed to receive IP notification: " ++ cause.message
  | sshTimeout attempts => "SSH wait timeout after " ++ toString attempts ++ " attempts"
  | setupScript detail => "setup script failed: " ++ detail
  | exec detail => "exec failed: " ++ detail
  | notFound id => "VM not found: " ++ id
  | noAddress id => "VM IP address not yet discovered: " ++ id
  | badMetadata => "runtime metadata error"
  | io cause => "I/O error: " ++ cause.message

/-- The VM or its bundle is already gone. -/
def isNotFound : VmError → Bool
  | notFound _ => true
  | io cause => cause.isNotFound
  | _ => false

end VmError

end RunnerFleet
