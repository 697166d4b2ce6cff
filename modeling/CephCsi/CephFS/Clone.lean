import CephCsi.CephFS.CloneState

/-! `CreateCloneFromSubvolume` and `CreateCloneFromSnapshot`. Both return `err` by value, so the
deferred compensator, which reads `err` and then assigns to it, never changes what is returned. -/

namespace CephCsi.CephFS

/-- The subvolumes and snapshots of a CephFS file system, and the clone status of each subvolume. -/
structure Cluster where
  subvolumes : String → Option Nat
  snapshots : String → String → Bool
  cloneStatus : String → CloneStatus

/-- A request the orchestration sends to the cluster. -/
inductive Request where
  | createSnapshot (subvolume snapshot : String)
  | cloneSnapshot (subvolume snapshot target : String)
  | getFSAdmin
  | cloneStatus (subvolume : String)
  | expandVolume (subvolume : String) (size : Nat)
  | deleteSnapshot (subvolume snapshot : String)
  | purgeVolume (subvolume : String)
  deriving DecidableEq, Repr

/-- What a request does when it succeeds. A clone starts with the size of its parent,
a resize changes an existing subvolume only, and deletes are idempotent. -/
def Request.apply : Request → Cluster → Cluster
  | .createSnapshot sv snap, c =>
    { c with snapshots := Function.update c.snapshots sv (Function.update (c.snapshots sv) snap true) }
  | .cloneSnapshot sv _ target, c =>
    { c with subvolumes := Function.update c.subvolumes target (some ((c.subvolumes sv).getD 0)) }
  | .getFSAdmin, c => c
  | .cloneStatus _, c => c
  | .expandVolume sv size, c =>
    { c with subvolumes := Function.update c.subvolumes sv ((c.subvolumes sv).map fun _ => size) }
  | .deleteSnapshot sv snap, c =>
    { c with snapshots := Function.update c.snapshots sv (Function.update (c.snapshots sv) snap false) }
  | .purgeVolume sv, c => { c with subvolumes := Function.update c.subvolumes sv none }

abbrev World := Client Request Cluster

def World.request (r : Request) (w : World) : Option Error × World := w.send Request.apply r

/-- The fields of `SubVolume` the orchestration reads. -/
structure SubVolume where
  volID : String
  size : Nat
  deriving DecidableEq, Repr

structure Snapshot where
  snapshotID : String
  subVolume : SubVolume
  deriving DecidableEq, Repr

/-- `NewSnapshot`: the snapshot client for `snapshotID` of `parent`. -/
def newSnapshot (snapshotID : String) (parent : SubVolume) : Snapshot := ⟨snapshotID, parent⟩

def Snapshot.createSnapshot (snap : Snapshot) : World → Option Error × World :=
  World.request (.createSnapshot snap.subVolume.volID snap.snapshotID)

def Snapshot.cloneSnapshot (snap : Snapshot) (target : SubVolume) : World → Option Error × World :=
  World.request (.cloneSnapshot snap.subVolume.volID snap.snapshotID target.volID)

def Snapshot.deleteSnapshot (snap : Snapshot) : World → Option Error × World :=
  World.request (.deleteSnapshot snap.subVolume.volID snap.snapshotID)

def SubVolume.expandVolume (s : SubVolume) (size : Nat) : World → Option Error × World :=
  World.request (.expandVolume s.volID size)

def SubVolume.purgeVolume (s : SubVolume) : World → Option Error × World :=
  World.request (.purgeVolume s.volID)

/-- `GetCloneState`: `CephFSCloneError` with the error when the admin handle or the status
cannot be had, else the reported state with the failure's errno and message. -/
def SubVolume.getCloneState (s : SubVolume) (w : World) :
    (CephFSCloneState × Option Error) × World :=
  match w.request .getFSAdmin with
  | (some err, w) => ((cephFSCloneError, some err), w)
  | (none, w) =>
    match w.request (.cloneStatus s.volID) with
    | (some err, w) => ((cephFSCloneError, some err), w)
    | (none, w) =>
      let cs := w.state.cloneStatus s.volID
      let (errno, errStr) :=
        match cs.failure with
        | some failure => (failure.errno, failure.errStr)
        | none => ("", "")
      ((⟨cs.state, cs.progressReport, errno, errStr⟩, none), w)

/-- Lines 99–112 and 169–181: get the clone's state and return `ToError` of it. -/
def SubVolume.checkCloneState (s : SubVolume) (w : World) : Option Error × World :=
  match s.getCloneState w with
  | ((_, some err), w) => (some err, w)
  | ((cloneState, none), w) => (cloneState.toError, w)

/-- A deferred compensator: on a non-retryable error, send the undo requests in order;
their errors are logged and dropped. -/
def compensate (undo : List (World → Option Error × World)) : Option Error → World → World
  | some err, w => if isCloneRetryError err then w else undo.foldl (fun w step => (step w).2) w
  | none, w => w

/-- `CreateCloneFromSubvolume`: the intermediate snapshot is named after the target. -/
def SubVolume.createCloneFromSubvolume (s parentvolOpt : SubVolume) (w : World) :
    Option Error × World :=
  let snapClient := newSnapshot s.volID parentvolOpt
  match snapClient.createSnapshot w with
  | (some err, w) => (some err, w)
  | (none, w) =>
    let (err, w) := chain [snapClient.cloneSnapshot s, s.checkCloneState,
      s.expandVolume s.size, snapClient.deleteSnapshot] w
    (err, compensate [s.purgeVolume, snapClient.deleteSnapshot] err w)

def SubVolume.cleanupSnapshotFromSubvolume (s parentVol : SubVolume) :
    World → Option Error × World :=
  (newSnapshot s.volID parentVol).deleteSnapshot

/-- `CreateCloneFromSnapshot`: the snapshot is the caller's and is never deleted. -/
def SubVolume.createCloneFromSnapshot (s : SubVolume) (snap : Snapshot) (w : World) :
    Option Error × World :=
  let snapClient := newSnapshot snap.snapshotID snap.subVolume
  match snapClient.cloneSnapshot s w with
  | (some err, w) => (some err, w)
  | (none, w) =>
    let (err, w) := chain [s.checkCloneState, s.expandVolume s.size] w
    (err, compensate [s.purgeVolume] err w)

end CephCsi.CephFS
