import CephCsi.Basic

/-! `ControllerReclaimSpace` and `NodeReclaimSpace`: check the volume ID, take the volume's lock in
the `util.VolumeLocks` table, call the cluster or the node's OS through the fault oracle, and
release the lock in a `defer`. None of those calls touches the lock table. -/

namespace CephCsi.CsiAddons

/-- Modelled from the spec: `util.VolumeLocks` is not among the sources. The IDs of the
volumes that have an operation in flight. -/
structure VolumeLocks where
  locks : KeySet

/-- `TryAcquire`: fails on a held ID, and holds the ID otherwise. -/
def VolumeLocks.tryAcquire (volumeID : String) (vl : VolumeLocks) : Bool × VolumeLocks :=
  if volumeID ∈ vl.locks.keys then (false, vl) else (true, ⟨vl.locks.insert volumeID⟩)

def VolumeLocks.release (volumeID : String) (vl : VolumeLocks) : VolumeLocks :=
  ⟨vl.locks.erase volumeID⟩

/-- The driver's lock table, and of each volume's image whether it is in use and its order. -/
structure Driver where
  volumeLocks : VolumeLocks
  imageInUse : String → Bool
  imageOrder : String → Nat

/-- A call the handlers make outside this file. -/
inductive Request where
  | getVolumeByID (volumeID : String)
  /-- `ri.isInUse()`. -/
  | isInUse (volumeID : String)
  /-- `ri.open()`. -/
  | imageOpen (volumeID : String)
  /-- `image.Stat()`. -/
  | imageStat (volumeID : String)
  /-- `image.Sparsify(sparseSize)`. -/
  | imageSparsify (volumeID : String) (sparseSize : Nat)
  /-- `image.Close()`. -/
  | imageClose (volumeID : String)
  /-- `rbdVol.Destroy`. -/
  | volumeDestroy (volumeID : String)
  /-- `mgr.Destroy`. -/
  | managerDestroy
  | execCommand (cmd : String) (args : List String)
  deriving DecidableEq, Repr

/-- The cluster and the node's OS do not see the lock table, and sparsifying an image
changes neither its watchers nor its order. -/
def Request.apply (_ : Request) (d : Driver) : Driver := d

abbrev World := Client Request Driver

def World.request (r : Request) (w : World) : Option Error × World := w.send Request.apply r

def World.note (r : Request) (w : World) : World := Client.note Request.apply r w

def World.tryAcquire (volumeID : String) (w : World) : Bool × World :=
  ((w.state.volumeLocks.tryAcquire volumeID).1,
    { w with state := { w.state with volumeLocks := (w.state.volumeLocks.tryAcquire volumeID).2 } })

def World.release (volumeID : String) (w : World) : World :=
  { w with state := { w.state with volumeLocks := w.state.volumeLocks.release volumeID } }

section World
variable {r : Request} {w : World} {volumeID : String}

@[simp] theorem World.request_state : (w.request r).2.state = w.state := by
  unfold World.request Client.send; split <;> rfl

@[simp] theorem World.request_sent : (w.request r).2.sent = w.sent ++ [r] := Client.send_sent

@[simp] theorem World.request_fault : (w.request r).2.fault = w.fault := Client.send_fault

@[simp] theorem World.request_result : (w.request r).1 = w.fault w.sent.length :=
  Client.send_result

@[simp] theorem World.note_state : (w.note r).state = w.state := rfl
@[simp] theorem World.note_sent : (w.note r).sent = w.sent ++ [r] := rfl
@[simp] theorem World.note_fault : (w.note r).fault = w.fault := rfl
@[simp] theorem World.release_state :
    (w.release volumeID).state = { w.state with volumeLocks := w.state.volumeLocks.release volumeID } := rfl

theorem World.request_eq : w.request r = (w.fault w.sent.length, { w with sent := w.sent ++ [r] }) := by
  unfold World.request Client.send; split <;> simp_all [Request.apply]

end World

inductive Code where
  | invalidArgument
  | aborted
  | internal
  | unimplemented
  deriving DecidableEq, Repr

/-- A value printed into a status message. -/
inductive Arg where
  | text (s : String)
  /-- `err.Error()`. -/
  | error (err : Error)
  /-- The volume object `GetVolumeByID` returned for this ID, printed with `%q`. -/
  | volume (volumeID : String)
  /-- What the command wrote to its standard error, which the model does not track. -/
  | stderr (cmd : String)
  deriving DecidableEq, Repr

/-- `status.Error(code, msg)` (no `args`) and `status.Errorf(code, format, args...)`. -/
structure Status where
  code : Code
  format : String
  args : List Arg
  deriving DecidableEq, Repr

def volumeOperationAlreadyExistsFmt : String :=
  "an operation with the given Volume ID %s already exists"

def errImageInUse : Error := .sentinel "rbdutil.ErrImageInUse"

/-- `1 << imageInfo.Order`, a 64-bit Go `uint`. -/
def sparseSize (order : Nat) : Nat := (1 <<< order) % (1 <<< 64)

/-- Of `rs.ControllerReclaimSpaceRequest`, the volume ID; its secrets only reach `NewManager`. -/
structure ControllerReclaimSpaceRequest where
  volumeId : String
  deriving DecidableEq, Repr

/-- Of a `csi.VolumeCapability`, what `IsBlockMultiNode` reads: whether its access type is
block, and whether its access mode lets several nodes use the volume. -/
structure VolumeCapability where
  block : Bool
  multiNode : Bool
  deriving DecidableEq, Repr

structure NodeReclaimSpaceRequest where
  volumeId : String
  stagingTargetPath : String
  volumePath : String
  volumeCapability : Option VolumeCapability
  deriving DecidableEq, Repr

/-- `csicommon.IsBlockMultiNode`, which is not among the sources: whether some capability is
block, and whether some is multi-node. A nil capability is neither. -/
def isBlockMultiNode (caps : List (Option VolumeCapability)) : Bool × Bool :=
  (caps.any fun cap => cap.any (·.block), caps.any fun cap => cap.any (·.multiNode))

/-- Lines 65–74, and 128–137 of `NodeReclaimSpace`: check the volume ID and take its lock.
On `none` the lock is held. -/
def lockVolume (volumeID : String) (w : World) : Option Status × World :=
  if volumeID = "" then (some ⟨.invalidArgument, "empty volume ID in request", []⟩, w)
  else
    match w.tryAcquire volumeID with
    | (false, w) => (some ⟨.aborted, volumeOperationAlreadyExistsFmt, [.text volumeID]⟩, w)
    | (true, w) => (none, w)

/-- Lines 80–83: resolve the volume. -/
def getVolume (volumeID : String) (w : World) : Option Status × World :=
  match w.request (.getVolumeByID volumeID) with
  | (some err, w) =>
    (some ⟨.aborted, "failed to find volume with ID %q: %s", [.text volumeID, .error err]⟩, w)
  | (none, w) => (none, w)

/-- Lines 461–469 of `rbdImage.Sparsify`: stat the open image and sparsify it in chunks of
its object size. -/
def sparsifyOpenImage (volumeID : String) (w : World) : Option Error × World :=
  match w.request (.imageStat volumeID) with
  | (some err, w) => (some err, w)
  | (none, w) =>
    match w.request (.imageSparsify volumeID (sparseSize (w.state.imageOrder volumeID))) with
    | (some err, w) => (some (.wrap "failed to sparsify image: %w" [] err), w)
    | (none, w) => (none, w)

/-- `rbdImage.Sparsify` (lines 446–472 of the rbd package's file in `volume_group.go`): an
image in use is left alone; an image it opens, the deferred `Close` closes. -/
def rbdImageSparsify (volumeID : String) (w : World) : Option Error × World :=
  match w.request (.isInUse volumeID) with
  | (some err, w) => (some (.wrap "failed to check if image is in use: %w" [] err), w)
  | (none, w) =>
    if w.state.imageInUse volumeID then (some errImageInUse, w)
    else
      match w.request (.imageOpen volumeID) with
      | (some err, w) => (some err, w)
      | (none, w) =>
        ((sparsifyOpenImage volumeID w).1, (sparsifyOpenImage volumeID w).2.note (.imageClose volumeID))

/-- Lines 87–99: an image in use is left as it is. -/
def sparsifyResult (volumeID : String) : Option Error → Except Status Unit
  | some err =>
    if err.is errImageInUse then .ok ()
    else .error ⟨.internal, "failed to sparsify volume %q: %s", [.volume volumeID, .error err]⟩
  | none => .ok ()

/-- Lines 84–99: sparsify the resolved volume, which the deferred `rbdVol.Destroy` frees. -/
def sparsify (volumeID : String) (w : World) : Except Status Unit × World :=
  (sparsifyResult volumeID (rbdImageSparsify volumeID w).1,
    (rbdImageSparsify volumeID w).2.note (.volumeDestroy volumeID))

/-- The frame both handlers share: take the volume's lock, run `body` under it, and release
the lock when `body` returns (the `defer` of lines 75 and 138). -/
def withVolumeLock (volumeID : String) (body : World → Except Status Unit × World) (w : World) :
    Except Status Unit × World :=
  match lockVolume volumeID w with
  | (some st, w) => (.error st, w)
  | (none, w) => ((body w).1, (body w).2.release volumeID)

/-- Lines 77–99: the deferred calls run last first, `rbdVol.Destroy` (in `sparsify`) and
then `mgr.Destroy`. -/
def sparsifyVolume (volumeID : String) (w : World) : Except Status Unit × World :=
  let result : Except Status Unit × World := match getVolume volumeID w with
    | (some st, w) => (.error st, w)
    | (none, w) => sparsify volumeID w
  (result.1, result.2.note .managerDestroy)

def controllerReclaimSpace (req : ControllerReclaimSpaceRequest) : World → Except Status Unit × World :=
  withVolumeLock req.volumeId (sparsifyVolume req.volumeId)

/-- Lines 142–153: the staging path with the volume ID appended, else the volume path. -/
def reclaimPath (req : NodeReclaimSpaceRequest) : Option String :=
  if req.stagingTargetPath = "" then
    if req.volumePath = "" then none else some req.volumePath
  else some (req.stagingTargetPath ++ "/" ++ req.volumeId)

/-- Lines 140–177: refuse a volume that is shared between nodes or is a block device, and
run `fstrim` on its path. -/
def trimVolume (req : NodeReclaimSpaceRequest) (w : World) : Except Status Unit × World :=
  match reclaimPath req with
  | none =>
    (Except.error ⟨.invalidArgument, "required parameter staging_target_path or volume_path is not set", []⟩, w)
  | some path =>
    if (isBlockMultiNode [req.volumeCapability]).2 then
      (.error ⟨.unimplemented, "multi-node space reclaim is not supported", []⟩, w)
    else if (isBlockMultiNode [req.volumeCapability]).1 then
      (.error ⟨.unimplemented, "block-mode space reclaim is not supported", []⟩, w)
    else
      match w.request (.execCommand "fstrim" [path]) with
      | (some err, w) =>
        (.error ⟨.internal, "failed to execute %q on %q (%s): %s",
          [.text "fstrim", .text path, .error err, .stderr "fstrim"]⟩, w)
      | (none, w) => (.ok (), w)

def nodeReclaimSpace (req : NodeReclaimSpaceRequest) : World → Except Status Unit × World :=
  withVolumeLock req.volumeId (trimVolume req)

/-! ## What `Sparsify` sends

The calls of `rbdImage.Sparsify` and its error, as functions of the oracle: `n` is the
position of its first call in the log. -/

/-- Check the watchers; if the image is free, open it, stat it, sparsify it and close it. -/
def sparsifyCalls (volumeID : String) (d : Driver) (fault : Nat → Option Error) (n : Nat) :
    List Request :=
  .isInUse volumeID ::
    if fault n = none ∧ d.imageInUse volumeID = false then
      .imageOpen volumeID ::
        if fault (n + 1) = none then
          .imageStat volumeID ::
            ((if fault (n + 2) = none then
              [.imageSparsify volumeID (sparseSize (d.imageOrder volumeID))] else []) ++
              [.imageClose volumeID])
        else []
    else []

/-- The error of the first call that fails, or `ErrImageInUse`. -/
def sparsifyError (volumeID : String) (d : Driver) (fault : Nat → Option Error) (n : Nat) :
    Option Error :=
  match fault n with
  | some err => some (.wrap "failed to check if image is in use: %w" [] err)
  | none =>
    if d.imageInUse volumeID then some errImageInUse
    else
      match fault (n + 1), fault (n + 2), fault (n + 3) with
      | some err, _, _ => some err
      | none, some err, _ => some err
      | none, none, some err => some (.wrap "failed to sparsify image: %w" [] err)
      | none, none, none => none

/-! ## One call -/

section Call
variable {volumeID : String} {w : World}

theorem lockVolume_eq (volumeID : String) (w : World) :
    lockVolume volumeID w =
      if volumeID = "" then (some ⟨.invalidArgument, "empty volume ID in request", []⟩, w)
      else if volumeID ∈ w.state.volumeLocks.locks.keys then
        (some ⟨.aborted, volumeOperationAlreadyExistsFmt, [.text volumeID]⟩, w)
      else (none, { w with state := { w.state with
        volumeLocks := ⟨w.state.volumeLocks.locks.insert volumeID⟩ } }) := by
  unfold lockVolume World.tryAcquire VolumeLocks.tryAcquire
  split_ifs <;> rfl

theorem getVolume_eq (volumeID : String) (w : World) :
    getVolume volumeID w =
      ((w.fault w.sent.length).map fun err =>
        ⟨.aborted, "failed to find volume with ID %q: %s", [.text volumeID, .error err]⟩,
       { w with sent := w.sent ++ [.getVolumeByID volumeID] }) := by
  unfold getVolume
  rw [World.request_eq]
  cases w.fault w.sent.length <;> rfl

theorem sparsifyOpenImage_eq (volumeID : String) (w : World) :
    sparsifyOpenImage volumeID w =
      ((w.fault w.sent.length).elim
          ((w.fault (w.sent.length + 1)).map (.wrap "failed to sparsify image: %w" [])) some,
        { w with sent := w.sent ++ .imageStat volumeID ::
          if w.fault w.sent.length = none then
            [.imageSparsify volumeID (sparseSize (w.state.imageOrder volumeID))] else [] }) := by
  unfold sparsifyOpenImage
  simp only [World.request_eq]
  cases stat : w.fault w.sent.length with
  | some err => rfl
  | none => cases sparsified : w.fault (w.sent.length + 1) <;> simp [sparsified]

theorem rbdImageSparsify_eq (volumeID : String) (w : World) :
    rbdImageSparsify volumeID w =
      (sparsifyError volumeID w.state w.fault w.sent.length,
        { w with sent := w.sent ++ sparsifyCalls volumeID w.state w.fault w.sent.length }) := by
  unfold rbdImageSparsify sparsifyError sparsifyCalls
  simp only [World.request_eq]
  cases checked : w.fault w.sent.length with
  | some err => simp
  | none =>
    cases inUse : w.state.imageInUse volumeID with
    | true => simp [inUse]
    | false =>
      cases opened : w.fault (w.sent.length + 1) with
      | some err => simp [inUse, opened]
      | none =>
        cases stat : w.fault (w.sent.length + 2) <;> cases sparsified : w.fault (w.sent.length + 3) <;>
          simp [inUse, opened, stat, sparsified, sparsifyOpenImage_eq, World.note, Client.note,
            Request.apply, Nat.add_assoc]

@[simp] theorem sparsify_state : (sparsify volumeID w).2.state = w.state := by
  simp [sparsify, rbdImageSparsify_eq]

theorem trimVolume_state (req : NodeReclaimSpaceRequest) : (trimVolume req w).2.state = w.state := by
  unfold trimVolume
  split
  · rfl
  · simp only [World.request_eq]
    split_ifs <;> cases w.fault w.sent.length <;> rfl

end Call

end CephCsi.CsiAddons
