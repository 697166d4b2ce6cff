import CephCsi.Basic

namespace CephCsi.CephFS

/-- `admin.CloneState`, a string. -/
structure CloneState where
  name : String
  deriving DecidableEq, Repr

def clonePending : CloneState := ⟨"pending"⟩
def cloneInProgress : CloneState := ⟨"in-progress"⟩
def cloneComplete : CloneState := ⟨"complete"⟩
def cloneFailed : CloneState := ⟨"failed"⟩

structure CloneFailure where
  errno : String
  errStr : String
  deriving DecidableEq, Repr

structure CloneProgressReport where
  percentageCloned : String
  amountCloned : String
  filesCloned : String
  deriving DecidableEq, Repr

/-- `admin.CloneStatus`, the reply of `fs clone status`; `failure` is what `GetFailure` returns. -/
structure CloneStatus where
  state : CloneState
  progressReport : CloneProgressReport
  failure : Option CloneFailure
  deriving DecidableEq, Repr

structure CephFSCloneState where
  state : CloneState
  progressReport : CloneProgressReport
  errno : String
  errorMsg : String
  deriving DecidableEq, Repr

/-- `CephFSCloneError`, the zero value `GetCloneState` returns with an error. -/
def cephFSCloneError : CephFSCloneState := ⟨⟨""⟩, ⟨"", "", ""⟩, "", ""⟩

def errInvalidClone : Error := .sentinel "ErrInvalidClone"
def errCloneInProgress : Error := .sentinel "ErrCloneInProgress"
def errClonePending : Error := .sentinel "ErrClonePending"
def errCloneFailed : Error := .sentinel "ErrCloneFailed"

/-- Modelled from the spec (§7), `IsCloneRetryError` not being among the sources: exactly
`CloneInProgress` and `ClonePending` are retryable, compared with `errors.Is`. -/
def isCloneRetryError (err : Error) : Bool :=
  err.is errCloneInProgress || err.is errClonePending

/-- `ToError`: the switch of lines 42–53. A reported state it does not name reads as `nil`, a
finished clone. -/
def CephFSCloneState.toError (cs : CephFSCloneState) : Option Error :=
  if cs.state = cloneComplete then none
  else if cs.state = cephFSCloneError.state then
    some (.wrap "%w: %s (%s)" [cs.errorMsg, cs.errno] errInvalidClone)
  else if cs.state = cloneInProgress then some errCloneInProgress
  else if cs.state = clonePending then some errClonePending
  else if cs.state = cloneFailed then
    some (.wrap "%w: %s (%s)" [cs.errorMsg, cs.errno] errCloneFailed)
  else none

def CephFSCloneState.getProgressReport (cs : CephFSCloneState) : CloneProgressReport :=
  ⟨cs.progressReport.percentageCloned, cs.progressReport.amountCloned,
    cs.progressReport.filesCloned⟩

/-- How a caller acts on a clone: go on, retry later, or give up and compensate. -/
inductive Outcome where
  | success
  | retry
  | terminal
  deriving DecidableEq, Repr

/-- Modelled from the spec (§4.1, `Classify`): complete is success, in-progress and pending
are retryable, failed and every other state terminal. -/
def specifiedOutcome (s : CloneState) : Outcome :=
  if s = cloneComplete then .success
  else if s = cloneInProgress ∨ s = clonePending then .retry
  else .terminal

end CephCsi.CephFS
