import CephCsi.Rbd.Group

namespace CephCsi.Rbd

/-- Lines 216–252, once the volume is in the rbd group and the member list; each getter returns
what its object holds. -/
def addMappingSteps (vg : VolumeGroup) (vol : Volume) (objectUUID : String) :
    List (World → Option Error × World) :=
  [World.request (.volumeGetID vol.handle), World.request .getPool, World.request .getID,
    World.requestWith "failed to decompose volume group id %q: %w" [vg.id] (.decomposeCSIID vg.id),
    World.request .getJournal,
    World.requestWith "failed to add mapping for volume %q to volume group id %q: %w" [vol.id, vg.id]
      (.addVolumesMapping vg.pool objectUUID vol.id)]

/-- `AddVolume`: the caller keeps the volume object. -/
def VolumeGroup.addVolume (vg : VolumeGroup) (vol : Volume) (w : World) :
    Option Error × VolumeGroup × World :=
  match w.requestWith "failed to add volume %q to volume group %q: %w" [vol.name, vg.id]
      (.addToGroup vol vg.name) with
  | (some err, w) => (some err, vg, w)
  | (none, w) =>
    let vg := { vg with volumes := vg.volumes ++ [vol] }
    let (err, w) := chain (addMappingSteps vg vol (w.state.groupOf vg.id).objectUUID) w
    (err, vg, w)

/-- The loop of lines 279–291: keep the members whose ID is not `toRemove`. -/
def filterVolumes (toRemove : String) :
    List Volume → List Volume → World → (List Volume × Option Error) × World
  | [], volumes, w => ((volumes, none), w)
  | v :: rest, volumes, w =>
    match w.request (.volumeGetID v.handle) with
    | (some err, w) => ((volumes, some err), w)
    | (none, w) => filterVolumes toRemove rest (if v.id = toRemove then volumes else volumes ++ [v]) w

/-- Lines 296–327, once the member list is rebuilt. -/
def removeMappingSteps (vg : VolumeGroup) (toRemove objectUUID : String) :
    List (World → Option Error × World) :=
  [World.request .getPool, World.request .getID,
    World.requestWith "failed to decompose volume group id %q: %w" [vg.id] (.decomposeCSIID vg.id),
    World.request .getJournal,
    World.requestWith "failed to remove mapping for volume %q to volume group id %q: %w"
      [toRemove, vg.id] (.removeVolumesMapping vg.pool objectUUID toRemove)]

/-- Lines 270–327, once the volume is out of the rbd group: rebuild the member list
without it, then remove its mapping. -/
def VolumeGroup.removeMember (vg : VolumeGroup) (vol : Volume) (w : World) :
    Option Error × VolumeGroup × World :=
  match w.requestWith "failed to get volume id for %q: %w" [vol.name] (.volumeGetID vol.handle) with
  | (some err, w) => (some err, vg, w)
  | (none, w) =>
    let toRemove := vol.id
    match filterVolumes toRemove vg.volumes [] w with
    | ((_, some err), w) => (some err, vg, w)
    | ((volumes, none), w) =>
      let vg := { vg with volumes := volumes }
      let (err, w) := chain (removeMappingSteps vg toRemove (w.state.groupOf vg.id).objectUUID) w
      (err, vg, w)

/-- `RemoveVolume`: the caller keeps the volume object. -/
def VolumeGroup.removeVolume (vg : VolumeGroup) (vol : Volume) (w : World) :
    Option Error × VolumeGroup × World :=
  if vg.volumes.length = 0 then (none, vg, w)
  else
    match w.request (.removeFromGroup vol vg.name) with
    | (some err, w) =>
      if err.is rbdErrNotExist then (none, vg, w)
      else (some (.wrap "failed to remove volume %q from volume group %q: %w" [vol.name, vg.id] err),
        vg, w)
    | (none, w) => vg.removeMember vol w

/-- The volume IDs of the three views: member list, journal record and rbd group. -/
def VolumeGroup.memberIDs (vg : VolumeGroup) : List String := vg.volumes.map Volume.id

def VolumeGroup.journalIDs (vg : VolumeGroup) (c : Cluster) : List String :=
  (c.journal (vg.pool, (c.groupOf vg.id).objectUUID)).keys

def VolumeGroup.imageIDs (vg : VolumeGroup) (c : Cluster) : List String := (c.groups vg.name).keys

section Specs
variable (vg : VolumeGroup) (vol : Volume) (w : World)

/-- Everything `AddVolume` sends, in order. -/
def addVolumeRequests (c : Cluster) : List Request :=
  [.addToGroup vol vg.name, .volumeGetID vol.handle, .getPool, .getID, .decomposeCSIID vg.id,
    .getJournal, .addVolumesMapping vg.pool (c.groupOf vg.id).objectUUID vol.id]

/-- Everything `RemoveVolume` sends past its early returns, in order. -/
def removeVolumeRequests (c : Cluster) : List Request :=
  .removeFromGroup vol vg.name :: .volumeGetID vol.handle ::
    ((vg.volumes.map fun v => .volumeGetID v.handle) ++
      [.getPool, .getID, .decomposeCSIID vg.id, .getJournal,
        .removeVolumesMapping vg.pool (c.groupOf vg.id).objectUUID vol.id])

def addVolumeSteps (objectUUID : String) : List (World → Option Error × World) :=
  World.requestWith "failed to add volume %q to volume group %q: %w" [vol.name, vg.id]
    (.addToGroup vol vg.name) :: addMappingSteps vg vol objectUUID

def removeMemberSteps (objectUUID : String) : List (World → Option Error × World) :=
  World.requestWith "failed to get volume id for %q: %w" [vol.name] (.volumeGetID vol.handle) ::
    ((vg.volumes.map fun v => World.request (.volumeGetID v.handle)) ++
      removeMappingSteps vg vol.id objectUUID)

theorem addVolume_eq :
    vg.addVolume vol w =
      ((chain (addVolumeSteps vg vol (w.state.groupOf vg.id).objectUUID) w).1,
        if w.fault w.sent.length = none then { vg with volumes := vg.volumes ++ [vol] } else vg,
        (chain (addVolumeSteps vg vol (w.state.groupOf vg.id).objectUUID) w).2) := by
  simp only [VolumeGroup.addVolume, addVolumeSteps, chain_cons]
  cases first : w.fault w.sent.length <;>
    simp [World.requestWith, World.request, Client.send, first, addMappingSteps, Request.apply]

theorem addVolume_sends (objectUUID : String) :
    Sends Request.apply (chain (addVolumeSteps vg vol objectUUID))
      [.addToGroup vol vg.name, .volumeGetID vol.handle, .getPool, .getID, .decomposeCSIID vg.id,
        .getJournal, .addVolumesMapping vg.pool objectUUID vol.id] :=
  sends_chain_cons (requestWith_sends _ _ _) <| sends_chain_cons (request_sends _) <|
    sends_chain_cons (request_sends _) <| sends_chain_cons (request_sends _) <|
      sends_chain_cons (requestWith_sends _ _ _) <| sends_chain_cons (request_sends _) <|
        sends_chain_cons (requestWith_sends _ _ _) sends_chain_nil

theorem addVolume_spec :
    ∃ l, l <+: addVolumeRequests vg vol w.state ∧
      (vg.addVolume vol w).2.2 = w.sendAll Request.apply l ∧
      ((vg.addVolume vol w).2.1 = vg ∨
        (vg.addVolume vol w).2.1 = { vg with volumes := vg.volumes ++ [vol] }) ∧
      ((vg.addVolume vol w).1 = none → l = addVolumeRequests vg vol w.state ∧
        w.Succeeds (addVolumeRequests vg vol w.state).length ∧
        (vg.addVolume vol w).2.1 = { vg with volumes := vg.volumes ++ [vol] }) := by
  obtain ⟨l, pre, sent, ok⟩ := addVolume_sends vg vol (w.state.groupOf vg.id).objectUUID w
  rw [addVolume_eq]
  refine ⟨l, pre, sent, by split_ifs <;> simp, fun done => ?_⟩
  obtain ⟨rfl, succeeds⟩ := ok done
  have first := succeeds 0 (by simp)
  simp only [Nat.add_zero] at first
  exact ⟨rfl, succeeds, by simp [first]⟩

theorem filterVolumes_spec (toRemove : String) (vs kept : List Volume) :
    let ids := vs.map fun v => World.request (.volumeGetID v.handle)
    (filterVolumes toRemove vs kept w).1.2 = (chain ids w).1 ∧
      (filterVolumes toRemove vs kept w).2 = (chain ids w).2 ∧
      ((chain ids w).1 = none →
        (filterVolumes toRemove vs kept w).1.1 = kept ++ vs.filter (·.id ≠ toRemove)) := by
  induction vs generalizing kept w with
  | nil => simp [filterVolumes]
  | cons v vs ih =>
    simp only [filterVolumes, List.map_cons, chain_cons]
    cases first : w.fault w.sent.length with
    | some err => simp [World.request, Client.send, first]
    | none =>
      simp only [World.request, Client.send, first]
      obtain ⟨err, world, kept'⟩ :=
        ih { w with state := (Request.volumeGetID v.handle).apply w.state, sent := w.sent ++ [_] }
          (if v.id = toRemove then kept else kept ++ [v])
      refine ⟨err, world, fun done => ?_⟩
      rw [kept' done]
      by_cases same : v.id = toRemove <;> simp [same]

theorem removeMember_eq :
    vg.removeMember vol w =
      ((chain (removeMemberSteps vg vol (w.state.groupOf vg.id).objectUUID) w).1,
        if (chain (World.requestWith "failed to get volume id for %q: %w" [vol.name]
            (.volumeGetID vol.handle) :: vg.volumes.map fun v => World.request (.volumeGetID v.handle))
            w).1 = none
        then { vg with volumes := vg.volumes.filter (·.id ≠ vol.id) } else vg,
        (chain (removeMemberSteps vg vol (w.state.groupOf vg.id).objectUUID) w).2) := by
  simp only [VolumeGroup.removeMember, removeMemberSteps, chain_cons]
  cases first : w.fault w.sent.length with
  | some err => simp [World.requestWith, World.request, Client.send, first]
  | none =>
    simp only [World.requestWith, World.request, Client.send, first, chain_append]
    generalize hw : ({ w with state := _, sent := _ } : World) = w'
    obtain ⟨err, world, kept⟩ := filterVolumes_spec w' vol.id vg.volumes []
    rcases hf : filterVolumes vol.id vg.volumes [] w' with ⟨⟨volumes, e⟩, w''⟩
    rw [hf] at err world kept
    simp only at err world kept
    subst err world
    cases loop : chain (vg.volumes.map fun v => World.request (.volumeGetID v.handle)) w' with
    | mk e w₃ =>
      cases e with
      | some e => simp [loop]
      | none =>
        have groupOf : w₃.state.groupOf = w.state.groupOf := by
          have loopOf := groupOf_of_sends (sends_chain_map
            (fun v : Volume => request_sends (.volumeGetID v.handle)) vg.volumes) w'
          rw [loop] at loopOf
          rw [loopOf, ← hw]
          rfl
        simp [loop, kept (by simp [loop]), groupOf, removeMappingSteps]

theorem removeMember_sends (objectUUID : String) :
    Sends Request.apply (chain (removeMemberSteps vg vol objectUUID))
      (.volumeGetID vol.handle :: ((vg.volumes.map fun v => .volumeGetID v.handle) ++
        [.getPool, .getID, .decomposeCSIID vg.id, .getJournal,
          .removeVolumesMapping vg.pool objectUUID vol.id])) :=
  sends_chain_cons (requestWith_sends _ _ _) <|
    sends_chain_map_append (fun v : Volume => request_sends (.volumeGetID v.handle))
      (sends_chain_cons (request_sends _) <| sends_chain_cons (request_sends _) <|
        sends_chain_cons (requestWith_sends _ _ _) <| sends_chain_cons (request_sends _) <|
          sends_chain_cons (requestWith_sends _ _ _) sends_chain_nil) vg.volumes

theorem removeVolume_spec :
    let r := vg.removeVolume vol w
    (r.2.1 = vg ∨ r.2.1 = { vg with volumes := vg.volumes.filter (·.id ≠ vol.id) }) ∧
    ∃ l, l <+: removeVolumeRequests vg vol w.state ∧ r.2.2 = w.sendAll Request.apply l ∧
      (r.1 = none →
        (l = removeVolumeRequests vg vol w.state ∧ w.Succeeds l.length ∧
          r.2.1 = { vg with volumes := vg.volumes.filter (·.id ≠ vol.id) }) ∨
        (r.2.1 = vg ∧ r.2.2.state = w.state ∧
          (vg.volumes = [] ∨ ∃ err, w.fault w.sent.length = some err ∧ err.is rbdErrNotExist = true))) := by
  by_cases empty : vg.volumes = []
  · have early : vg.removeVolume vol w = (none, vg, w) := by simp [VolumeGroup.removeVolume, empty]
    rw [early]
    exact ⟨.inl rfl, [], List.nil_prefix, rfl, fun _ => .inr ⟨rfl, rfl, .inl empty⟩⟩
  have nonzero : vg.volumes.length ≠ 0 := by simpa using empty
  cases first : w.fault w.sent.length with
  | some err =>
    have early : vg.removeVolume vol w =
        (if err.is rbdErrNotExist then none
          else some (.wrap "failed to remove volume %q from volume group %q: %w" [vol.name, vg.id] err),
          vg, w.sendAll Request.apply [.removeFromGroup vol vg.name]) := by
      simp only [VolumeGroup.removeVolume, nonzero, World.request, Client.send, first, if_false,
        Client.sendAll_cons, Client.sendAll_nil]
      split <;> rfl
    rw [early]
    refine ⟨.inl rfl, [.removeFromGroup vol vg.name], ⟨_, rfl⟩, rfl, fun done => .inr ⟨rfl, by simp [Client.send, first], .inr
      ⟨err, rfl, by simpa using done⟩⟩⟩
  | none =>
    have rest : vg.removeVolume vol w =
        vg.removeMember vol (w.sendAll Request.apply [.removeFromGroup vol vg.name]) := by
      simp [VolumeGroup.removeVolume, nonzero, World.request, Client.send, first]
    rw [rest, removeMember_eq]
    obtain ⟨l, pre, sent, ok⟩ := removeMember_sends vg vol (w.state.groupOf vg.id).objectUUID
      (w.sendAll Request.apply [.removeFromGroup vol vg.name])
    have groupOf : (w.sendAll Request.apply [.removeFromGroup vol vg.name]).state.groupOf =
        w.state.groupOf := by simp [Client.send, first]
    simp only [groupOf]
    refine ⟨by split_ifs <;> simp, .removeFromGroup vol vg.name :: l,
      List.cons_prefix_cons.mpr ⟨rfl, pre⟩, by rw [sent, ← Client.sendAll_append]; rfl,
      fun done => .inl ?_⟩
    obtain ⟨rfl, succeeds⟩ := ok done
    refine ⟨rfl, Client.succeeds_cons first succeeds, ?_⟩
    rw [if_pos]
    exact @chain_append_none _ _ (removeMappingSteps vg vol.id (w.state.groupOf vg.id).objectUUID) _
      (by simpa [removeMemberSteps] using done)

theorem addVolume_state (succeeds : w.Succeeds (addVolumeRequests vg vol w.state).length) :
    (w.sendAll Request.apply (addVolumeRequests vg vol w.state)).state =
      { w.state with
        groups := Function.update w.state.groups vg.name ((w.state.groups vg.name).insert vol.id),
        journal := Function.update w.state.journal (vg.pool, (w.state.groupOf vg.id).objectUUID)
          ((w.state.journal (vg.pool, (w.state.groupOf vg.id).objectUUID)).insert vol.id) } := by
  rw [Client.sendAll_state succeeds]
  rfl

theorem foldl_volumeGetID (vs : List Volume) (c : Cluster) :
    (vs.map fun v => Request.volumeGetID v.handle).foldl (fun s r => r.apply s) c = c := by
  induction vs generalizing c with
  | nil => rfl
  | cons v vs ih => exact ih c

theorem removeVolume_state (succeeds : w.Succeeds (removeVolumeRequests vg vol w.state).length) :
    (w.sendAll Request.apply (removeVolumeRequests vg vol w.state)).state =
      { w.state with
        groups := Function.update w.state.groups vg.name ((w.state.groups vg.name).erase vol.id),
        journal := Function.update w.state.journal (vg.pool, (w.state.groupOf vg.id).objectUUID)
          ((w.state.journal (vg.pool, (w.state.groupOf vg.id).objectUUID)).erase vol.id) } := by
  rw [Client.sendAll_state succeeds, removeVolumeRequests, List.foldl_cons, List.foldl_cons,
    List.foldl_append, foldl_volumeGetID]
  rfl

end Specs

/-- A call that returns `nil` leaves the three views agreeing on its volume: in all of them after
`AddVolume`, in none after `RemoveVolume`, unless `RemoveVolume` returned early unchanged. -/
theorem membership_views (vg : VolumeGroup) (vol : Volume) (w : World) :
    ((vg.addVolume vol w).1 = none →
      let r := vg.addVolume vol w
      vol.id ∈ r.2.1.memberIDs ∧ vol.id ∈ r.2.1.journalIDs r.2.2.state ∧
        vol.id ∈ r.2.1.imageIDs r.2.2.state) ∧
    ((vg.removeVolume vol w).1 = none →
      let r := vg.removeVolume vol w
      (vol.id ∉ r.2.1.memberIDs ∧ vol.id ∉ r.2.1.journalIDs r.2.2.state ∧
          vol.id ∉ r.2.1.imageIDs r.2.2.state) ∨
        (r.2.1 = vg ∧ r.2.2.state = w.state ∧
          (vg.volumes = [] ∨ ∃ err, w.fault w.sent.length = some err ∧ err.is rbdErrNotExist = true))) := by
  constructor
  · intro done
    obtain ⟨l, -, sent, -, ok⟩ := addVolume_spec vg vol w
    obtain ⟨rfl, succeeds, appended⟩ := ok done
    simp [sent, appended, addVolume_state vg vol w succeeds, VolumeGroup.memberIDs,
      VolumeGroup.journalIDs, VolumeGroup.imageIDs]
  · intro done
    obtain ⟨-, l, -, sent, ok⟩ := removeVolume_spec vg vol w
    rcases ok done with ⟨rfl, succeeds, filtered⟩ | early
    · left
      simp [sent, filtered, removeVolume_state vg vol w succeeds, VolumeGroup.memberIDs,
        VolumeGroup.journalIDs, VolumeGroup.imageIDs]
    · exact .inr early

/-- A `RemoveVolume` that fails on the journal update has emptied the member list; the
retry returns `nil` at once and the journal record still maps the volume. -/
theorem remove_retry_keeps_mapping :
    let w : World := ⟨oneVolumeCluster, [], fun n => if n = 10 then some (.sentinel "ETIMEDOUT") else none⟩
    let vol : Volume := ⟨0, "vol-1", "img-1"⟩
    let loaded := getVolumeGroup .inserted "g1" w
    let vg : VolumeGroup :=
      ⟨"g1", "group-1", "pool-1", some 1, [⟨2, "vol-1", "img-1"⟩], [⟨2, "vol-1", "img-1"⟩]⟩
    let first := vg.removeVolume vol loaded.2
    let retry := first.2.1.removeVolume vol first.2.2
    loaded.1 = (some vg, none) ∧ vg.memberIDs = ["vol-1"] ∧ vg.journalIDs loaded.2.state = ["vol-1"] ∧
      vg.imageIDs loaded.2.state = ["vol-1"] ∧ first.1 ≠ none ∧ retry.1 = none ∧
      vol.id ∈ retry.2.1.journalIDs retry.2.2.state := by
  decide

/-- An `AddVolume` of a volume in no view, undone by a `RemoveVolume` that takes the image out of
the rbd group, gives back the group object and the cluster as they were. -/
theorem add_remove_roundtrip (vg : VolumeGroup) (vol : Volume) (w : World)
    (fresh : vol.id ∉ vg.memberIDs) (unmapped : vol.id ∉ vg.journalIDs w.state)
    (outside : vol.id ∉ vg.imageIDs w.state)
    (added : (vg.addVolume vol w).1 = none)
    (removedFromGroup : (vg.addVolume vol w).2.2.fault (vg.addVolume vol w).2.2.sent.length = none)
    (removed : ((vg.addVolume vol w).2.1.removeVolume vol (vg.addVolume vol w).2.2).1 = none) :
    let r := (vg.addVolume vol w).2.1.removeVolume vol (vg.addVolume vol w).2.2
    r.2.1 = vg ∧ r.2.2.state = w.state := by
  obtain ⟨l, -, sent, -, ok⟩ := addVolume_spec vg vol w
  obtain ⟨rfl, succeeds, appended⟩ := ok added
  obtain ⟨-, l', -, sent', ok'⟩ :=
    removeVolume_spec (vg.addVolume vol w).2.1 vol (vg.addVolume vol w).2.2
  rcases ok' removed with ⟨rfl, succeeds', filtered⟩ | ⟨-, -, empty | ⟨err, failed, -⟩⟩
  · have kept : vg.volumes.filter (·.id ≠ vol.id) = vg.volumes :=
      List.filter_eq_self.mpr fun v mem => decide_eq_true fun same : v.id = vol.id =>
        fresh (List.mem_map.mpr ⟨v, mem, same⟩)
    refine ⟨by rw [filtered, appended]; simp only [List.filter_append, kept]; simp, ?_⟩
    rw [sent', removeVolume_state _ _ _ succeeds']
    simp only [appended, sent, addVolume_state vg vol w succeeds, Function.update_same,
      Function.update_idem]
    simp only [VolumeGroup.journalIDs, VolumeGroup.imageIDs] at unmapped outside
    simp [KeySet.erase_insert unmapped, KeySet.erase_insert outside]
  · simp [appended] at empty
  · simp [removedFromGroup] at failed

/-- The round trip at a group of one volume, every request succeeding. -/
theorem add_remove_roundtrip_one_volume :
    let vg : VolumeGroup := ⟨"g1", "group-1", "pool-1", some 1, [⟨2, "vol-1", "img-1"⟩], []⟩
    let vol : Volume := ⟨0, "vol-2", "img-2"⟩
    let w : World := ⟨oneVolumeCluster, [], fun _ => none⟩
    vol.id ∉ vg.memberIDs ∧ vol.id ∉ vg.journalIDs w.state ∧ vol.id ∉ vg.imageIDs w.state ∧
      (vg.addVolume vol w).1 = none ∧
      (vg.addVolume vol w).2.2.fault (vg.addVolume vol w).2.2.sent.length = none ∧
      ((vg.addVolume vol w).2.1.removeVolume vol (vg.addVolume vol w).2.2).1 = none ∧
      ((vg.addVolume vol w).2.1.removeVolume vol (vg.addVolume vol w).2.2).2.1 = vg ∧
      ((vg.addVolume vol w).2.1.removeVolume vol (vg.addVolume vol w).2.2).2.2.state = w.state :=
  ⟨by decide, by decide, by decide, by decide, rfl, by decide,
    add_remove_roundtrip _ _ _ (by decide) (by decide) (by decide) (by decide) rfl (by decide)⟩

/-- A group reloaded after an `AddVolume` that failed past the rbd group holds the image in
its rbd group only; the round trip then takes the image out of the rbd group. -/
theorem roundtrip_drops_stray_image :
    let vg : VolumeGroup := ⟨"g1", "group-1", "pool-1", some 1, [], []⟩
    let vol : Volume := ⟨0, "vol-1", "img-1"⟩
    let w : World := ⟨{ oneVolumeCluster with journal := fun _ => KeySet.empty }, [], fun _ => none⟩
    let added := vg.addVolume vol w
    let removed := added.2.1.removeVolume vol added.2.2
    vol.id ∉ vg.memberIDs ∧ vol.id ∉ vg.journalIDs w.state ∧ added.1 = none ∧ removed.1 = none ∧
      vol.id ∈ vg.imageIDs w.state ∧ vol.id ∉ vg.imageIDs removed.2.2.state := by
  decide

end CephCsi.Rbd
