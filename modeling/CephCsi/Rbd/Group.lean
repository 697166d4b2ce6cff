import CephCsi.Basic

/-! The state a `volumeGroup` works on, and the functions of `volume_group.go` that build, list and
tear down a group object. `handle` tells apart two objects for one volume ID. -/

namespace CephCsi.Rbd

/-- A `types.Volume` object: `id` is its CSI volume ID and `name` its rbd image. -/
structure Volume where
  handle : Nat
  id : String
  name : String
  deriving DecidableEq, Repr

/-- A `types.Snapshot` object made by `NewSnapshotByID` from the volume object `source`. -/
structure Snapshot where
  handle : Nat
  source : Nat
  requestName : String
  snapID : Nat
  deriving DecidableEq, Repr

/-- One image snapshot of a group snapshot, as `GroupSnapGetInfo` lists it. -/
structure GroupSnap where
  name : String
  poolID : Nat
  snapID : Nat
  deriving DecidableEq, Repr

/-- What a group ID stands for: its journal record's pool and object UUID, and its rbd group. -/
structure GroupRecord where
  pool : String
  objectUUID : String
  name : String

/-- The cluster as the group code sees it. `groups` holds the images of each rbd group by
the IDs of the volumes they back, and `journal` the volume map of each group record. -/
structure Cluster where
  groupOf : String → GroupRecord
  groups : String → KeySet
  groupExists : String → Bool
  groupSnaps : String → String → Bool
  groupSnapInfo : String → String → List GroupSnap
  journal : String × String → KeySet
  imageName : String → String
  nextHandle : Nat
  connections : List Nat

/-- A call the group code makes to something outside this file. -/
inductive Request where
  | initCommonVolumeGroup (id : String)
  | getVolumeGroupAttributes (id : String)
  | getVolumeByID (volID : String) (handle : Nat)
  | getName
  | getIOContext
  | getPool
  | getID
  | getJournal
  | groupCreate (name : String)
  | groupRemove (name : String)
  | deleteJournal (id : String)
  | addToGroup (volume : Volume) (group : String)
  | removeFromGroup (volume : Volume) (group : String)
  | volumeGetID (volume : Nat)
  | volumeGetName (volume : Nat)
  | volumeToCSI (volume : Nat)
  | decomposeCSIID (id : String)
  | addVolumesMapping (pool objectUUID volID : String)
  | removeVolumesMapping (pool objectUUID volID : String)
  | groupSnapCreate (group name : String)
  | groupSnapRemove (group name : String)
  | groupSnapGetInfo (group name : String)
  | newSnapshotByID (volume : Nat) (name : String) (snapID handle : Nat)
  | volumeDestroy (volume : Nat)
  | snapshotDestroy (snapshot : Option Nat)
  | commonDestroy (connection : Option Nat)
  deriving DecidableEq, Repr

/-- Modelled from the spec: none of these calls is among the sources. A successful call
has the effect its name says: the resolver and `NewSnapshotByID` make a new object, group
and journal updates insert or erase one key, and lookups change nothing. Which calls hold a
connection is the modeller's choice: `initCommonVolumeGroup` opens the only one, which
`commonVolumeGroup.Destroy` closes, and `GetIOContext` and `getJournal` open none. -/
def Request.apply : Request → Cluster → Cluster
  | .initCommonVolumeGroup _, c =>
    { c with nextHandle := c.nextHandle + 1, connections := c.connections ++ [c.nextHandle] }
  | .getVolumeByID _ _, c => { c with nextHandle := c.nextHandle + 1 }
  | .newSnapshotByID _ _ _ _, c => { c with nextHandle := c.nextHandle + 1 }
  | .groupCreate name, c => { c with groupExists := Function.update c.groupExists name true }
  | .groupRemove name, c =>
    { c with groupExists := Function.update c.groupExists name false,
             groups := Function.update c.groups name KeySet.empty }
  | .deleteJournal id, c =>
    let key := ((c.groupOf id).pool, (c.groupOf id).objectUUID)
    { c with journal := Function.update c.journal key KeySet.empty }
  | .addToGroup v group, c =>
    { c with groups := Function.update c.groups group ((c.groups group).insert v.id) }
  | .removeFromGroup v group, c =>
    { c with groups := Function.update c.groups group ((c.groups group).erase v.id) }
  | .addVolumesMapping pool uuid volID, c =>
    { c with journal := Function.update c.journal (pool, uuid) ((c.journal (pool, uuid)).insert volID) }
  | .removeVolumesMapping pool uuid volID, c =>
    { c with journal := Function.update c.journal (pool, uuid) ((c.journal (pool, uuid)).erase volID) }
  | .groupSnapCreate group name, c =>
    let snaps := Function.update (c.groupSnaps group) name true
    { c with groupSnaps := Function.update c.groupSnaps group snaps }
  | .groupSnapRemove group name, c =>
    let snaps := Function.update (c.groupSnaps group) name false
    { c with groupSnaps := Function.update c.groupSnaps group snaps }
  | .commonDestroy (some conn), c => { c with connections := c.connections.erase conn }
  | _, c => c

abbrev World := Client Request Cluster

def World.request (r : Request) (w : World) : Option Error × World := w.send Request.apply r

def World.note (r : Request) (w : World) : World := Client.note Request.apply r w

/-- A call whose error is returned wrapped: `fmt.Errorf(format, args..., err)`. -/
def World.requestWith (format : String) (args : List String) (r : Request) (w : World) :
    Option Error × World :=
  match w.request r with
  | (some err, w) => (some (.wrap format args err), w)
  | (none, w) => (none, w)

@[simp] theorem Request.apply_groupOf (r : Request) (c : Cluster) : (r.apply c).groupOf = c.groupOf := by
  cases r with
  | commonDestroy conn => cases conn <;> rfl
  | _ => rfl

theorem request_sends (r : Request) : Sends Request.apply (World.request r) [r] := sends_send

theorem requestWith_sends (format : String) (args : List String) (r : Request) :
    Sends Request.apply (World.requestWith format args r) [r] := by
  intro w
  obtain ⟨l, pre, sent, ok⟩ := request_sends r w
  refine ⟨l, pre, ?_, fun done => ok ?_⟩ <;>
    simp only [World.requestWith] at * <;> split at * <;> simp_all

theorem groupOf_of_sends {step : World → Option Error × World} {rs : List Request}
    (sends : Sends Request.apply step rs) (w : World) : (step w).2.state.groupOf = w.state.groupOf := by
  obtain ⟨l, -, sent, -⟩ := sends w
  rw [sent]
  exact Client.sendAll_preserves Cluster.groupOf fun r _ c => Request.apply_groupOf r c

def radosErrNotConnected : Error := .sentinel "rados.ErrNotConnected"
def radosErrNotFound : Error := .sentinel "rados.ErrNotFound"
def rbdErrNotFound : Error := .sentinel "librbd.ErrNotFound"
def rbdErrExist : Error := .sentinel "librbd.ErrExist"
def rbdErrNotExist : Error := .sentinel "librbd.ErrNotExist"

def errRBDGroupNotConnected : Error := .wrap "%w: RBD group is not connected" [] radosErrNotConnected
def errRBDGroupNotFound : Error := .wrap "%w: RBD group not found" [] rbdErrNotFound

/-- `volumeGroup`: the group's ID, rbd group, pool and connection, its member volumes, and the
volumes `GetVolumeGroup` resolved, which the group frees. -/
structure VolumeGroup where
  id : String
  name : String
  pool : String
  conn : Option Nat
  volumes : List Volume
  volumesToFree : List Volume
  deriving DecidableEq, Repr

/-- The loop of lines 101–108: resolve each ID of the group's volume map in turn. -/
def resolveVolumes : List String → List Volume → World → (List Volume × Option Error) × World
  | [], volumes, w => ((volumes, none), w)
  | volID :: rest, volumes, w =>
    let vol : Volume := ⟨w.state.nextHandle, volID, w.state.imageName volID⟩
    match w.request (.getVolumeByID volID vol.handle) with
    | (some err, w) => ((volumes, some err), w)
    | (none, w) => resolveVolumes rest (volumes ++ [vol]) w

def destroyVolumes (volumes : List Volume) (w : World) : World :=
  volumes.foldl (fun w v => w.note (.volumeDestroy v.handle)) w

/-- The function deferred at lines 91–100: free the resolved volumes unless the group
has taken them over. -/
def freeResolved (vg : VolumeGroup) (volumes : List Volume) (w : World) : World :=
  if vg.volumesToFree.length > 0 then w else destroyVolumes volumes w

/-- `GetVolumeGroup`, whose `range` over the volume map walks it in `order`: a group object,
an error, or both when the group is not found. -/
def getVolumeGroup (order : RangeOrder) (id : String) (w : World) :
    (Option VolumeGroup × Option Error) × World :=
  let conn := w.state.nextHandle
  match w.request (.initCommonVolumeGroup id) with
  | (some err, w) => ((none, some (.wrap "failed to initialize volume group with id %q: %w" [id] err)), w)
  | (none, w) =>
    let record := w.state.groupOf id
    let vg : VolumeGroup := ⟨id, record.name, record.pool, some conn, [], []⟩
    match w.request (.getVolumeGroupAttributes id) with
    | (some err, w) =>
      if err.is errRBDGroupNotFound then ((some vg, some err), w)
      else ((none, some (.wrap "failed to get volume attributes for id %q: %w" [vg.id] err)), w)
    | (none, w) =>
      match resolveVolumes (order.walk (w.state.journal (record.pool, record.objectUUID))) [] w with
      | ((volumes, some err), w) =>
        ((none, some (.wrap "failed to get attributes for volume group id %q: %w" [id] err)),
          freeResolved vg volumes w)
      | ((volumes, none), w) =>
        let vg := { vg with volumes := volumes, volumesToFree := volumes }
        ((some vg, none), freeResolved vg volumes w)

/-- Modelled from the spec: `commonVolumeGroup.Destroy` is not among the sources; it
releases the connection `initCommonVolumeGroup` opened. -/
def VolumeGroup.commonDestroy (vg : VolumeGroup) (w : World) : VolumeGroup × World :=
  ({ vg with conn := none }, w.note (.commonDestroy vg.conn))

/-- `Destroy`: free the volumes resolved by `GetVolumeGroup`, then the common part. -/
def VolumeGroup.destroy (vg : VolumeGroup) (w : World) : VolumeGroup × World :=
  let (vg, w) :=
    if vg.volumesToFree.length > 0 then
      ({ vg with volumesToFree := [] }, destroyVolumes vg.volumesToFree w)
    else (vg, w)
  vg.commonDestroy w

/-- `Create`: creating a group that exists is not an error. -/
def VolumeGroup.create (vg : VolumeGroup) (w : World) : Option Error × World :=
  match w.request .getName with
  | (some err, w) => (some (.wrap "missing name to create volume group: %w" [] err), w)
  | (none, w) =>
    match w.request .getIOContext with
    | (some err, w) => (some err, w)
    | (none, w) =>
      match w.request (.groupCreate vg.name) with
      | (some err, w) =>
        if err.is rbdErrExist then (none, w)
        else (some (.wrap "failed to create volume group %q: %w" [vg.name] err), w)
      | (none, w) => (none, w)

/-- `Delete`: remove the rbd group, tolerating its absence, then the journal record. -/
def VolumeGroup.delete (vg : VolumeGroup) (w : World) : Option Error × World :=
  match w.request .getName with
  | (some err, w) => (some err, w)
  | (none, w) =>
    match w.request .getIOContext with
    | (some err, w) => (some err, w)
    | (none, w) =>
      match w.request (.groupRemove vg.name) with
      | (some err, w) =>
        if err.is radosErrNotFound then w.request (.deleteJournal vg.id)
        else (some (.wrap "failed to remove volume group %q: %w" [vg.id] err), w)
      | (none, w) => w.request (.deleteJournal vg.id)

def VolumeGroup.listVolumes (vg : VolumeGroup) : List Volume × Option Error := (vg.volumes, none)

/-- `csi.Volume`, as a volume's `ToCSI` makes it. -/
structure CsiVolume where
  volumeId : String
  deriving DecidableEq, Repr

structure CsiVolumeGroup where
  volumeGroupId : String
  volumeGroupContext : List (String × String)
  volumes : List CsiVolume
  deriving DecidableEq, Repr

/-- The loop of lines 127–132. -/
def csiVolumes : List Volume → List CsiVolume → World → (List CsiVolume × Option Error) × World
  | [], done, w => ((done, none), w)
  | vol :: rest, done, w =>
    match w.request (.volumeToCSI vol.handle) with
    | (some err, w) => ((done, some (.wrap "failed to convert volume %q to CSI type: %w" [vol.name] err)), w)
    | (none, w) => csiVolumes rest (done ++ [⟨vol.id⟩]) w

def VolumeGroup.toCSI (vg : VolumeGroup) (w : World) : (Option CsiVolumeGroup × Option Error) × World :=
  match vg.listVolumes with
  | (_, some err) => ((none, some (.wrap "failed to list volumes for volume group %q: %w" [vg.id] err)), w)
  | (volumes, none) =>
    match csiVolumes volumes [] w with
    | ((_, some err), w) => ((none, some err), w)
    | ((csiVols, none), w) =>
      match w.request .getID with
      | (some err, w) => ((none, some (.wrap "failed to get id for volume group %q: %w" [vg.id] err)), w)
      | (none, w) => ((some ⟨vg.id, [], csiVols⟩, none), w)

/-! ## Create and Delete -/

/-- A cluster whose group `g1` has the one volume `vol-1`, in its rbd group and journal record. -/
def oneVolumeCluster : Cluster where
  groupOf _ := ⟨"pool-1", "uuid-1", "group-1"⟩
  groups _ := KeySet.empty.insert "vol-1"
  groupExists _ := true
  groupSnaps _ _ := false
  groupSnapInfo _ _ := []
  journal _ := KeySet.empty.insert "vol-1"
  imageName _ := "img-1"
  nextHandle := 1
  connections := []

end CephCsi.Rbd
