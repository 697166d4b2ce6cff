import CephCsi.Rbd.Membership
import CephCsi.Rbd.Snapshots

namespace CephCsi.Rbd

/-- The volume objects the resolver makes for `ids` when every call succeeds, from `handle` on. -/
def resolvedVolumes (imageName : String → String) (handle : Nat) : List String → List Volume
  | [] => []
  | id :: rest => ⟨handle, id, imageName id⟩ :: resolvedVolumes imageName (handle + 1) rest

/-- The `GetVolumeByID` calls that make them. -/
def resolveRequests (imageName : String → String) (handle : Nat) (ids : List String) : List Request :=
  (resolvedVolumes imageName handle ids).map fun v => .getVolumeByID v.id v.handle

/-- The volume object a request `Destroy`s. -/
def Request.destroyedVolume : Request → Option Nat
  | .volumeDestroy h => some h
  | _ => none

/-- The volume object a request asks the resolver for. -/
def Request.resolvedVolume : Request → Option Nat
  | .getVolumeByID _ h => some h
  | _ => none

theorem resolvedVolumes_ids (imageName : String → String) (handle : Nat) (ids : List String) :
    (resolvedVolumes imageName handle ids).map Volume.id = ids := by
  induction ids generalizing handle <;> simp_all [resolvedVolumes]

theorem resolvedVolumes_handles (imageName : String → String) (handle : Nat) (ids : List String) :
    (resolvedVolumes imageName handle ids).map Volume.handle = List.range' handle ids.length := by
  induction ids generalizing handle <;> simp_all [resolvedVolumes, List.range'_succ]

/-- The loop of `GetVolumeGroup` either resolves every ID, or fails at the `k`-th having
resolved the ones before it. -/
theorem resolveVolumes_spec (ids : List String) (volumes : List Volume) (w : World) :
    let r := resolveVolumes ids volumes w
    let planned := resolvedVolumes w.state.imageName w.state.nextHandle ids
    (r.1.2 = none ∧ r.1.1 = volumes ++ planned ∧ w.Succeeds ids.length ∧
        r.2 = w.sendAll Request.apply (resolveRequests w.state.imageName w.state.nextHandle ids)) ∨
    (r.1.2 ≠ none ∧ ∃ k < ids.length, r.1.1 = volumes ++ planned.take k ∧
        r.2 = w.sendAll Request.apply ((resolveRequests w.state.imageName w.state.nextHandle ids).take (k + 1))) := by
  induction ids generalizing volumes w with
  | nil => exact .inl ⟨rfl, by simp [resolveVolumes, resolvedVolumes], fun _ h => absurd h (Nat.not_lt_zero _), rfl⟩
  | cons id rest ih =>
    cases first : w.fault w.sent.length with
    | some err =>
      refine .inr ⟨by simp [resolveVolumes, World.request, Client.send, first], 0, by simp, ?_, ?_⟩ <;>
        simp [resolveVolumes, resolveRequests, resolvedVolumes, World.request, Client.send, first]
    | none =>
      let vol : Volume := ⟨w.state.nextHandle, id, w.state.imageName id⟩
      have step : resolveVolumes (id :: rest) volumes w =
          resolveVolumes rest (volumes ++ [vol]) (w.send Request.apply (.getVolumeByID id vol.handle)).2 := by
        simp [resolveVolumes, World.request, Client.send, first, vol]
      have sentOne : (w.send Request.apply (.getVolumeByID id vol.handle)).2 =
          w.sendAll Request.apply [.getVolumeByID id vol.handle] := rfl
      have state : (w.send Request.apply (.getVolumeByID id vol.handle)).2.state =
          { w.state with nextHandle := w.state.nextHandle + 1 } := by
        simp [Client.send, first, Request.apply]
      rcases ih (volumes ++ [vol]) (w.send Request.apply (.getVolumeByID id vol.handle)).2 with
        ⟨done, result, succeeds, sent⟩ | ⟨failed, k, lt, result, sent⟩
      · rw [state] at result sent
        refine .inl ⟨by rw [step]; exact done, by simp [step, result, resolvedVolumes, vol],
          by simpa using Client.succeeds_cons first succeeds, ?_⟩
        rw [step, sent, sentOne, ← Client.sendAll_append]
        rfl
      · rw [state] at result sent
        refine .inr ⟨by rw [step]; exact failed, k + 1, by simp; omega,
          by simp [step, result, resolvedVolumes, vol], ?_⟩
        rw [step, sent, sentOne, ← Client.sendAll_append]
        rfl

@[simp] theorem destroyVolumes_sent (volumes : List Volume) (w : World) :
    (destroyVolumes volumes w).sent = w.sent ++ volumes.map fun v => .volumeDestroy v.handle := by
  induction volumes generalizing w <;> simp_all [destroyVolumes, World.note]

@[simp] theorem destroyVolumes_state (volumes : List Volume) (w : World) :
    (destroyVolumes volumes w).state = w.state := by
  induction volumes generalizing w <;> simp_all [destroyVolumes, World.note, Request.apply]

theorem freeResolved_taken (vg : VolumeGroup) (volumes : List Volume) (w : World) :
    freeResolved { vg with volumes := volumes, volumesToFree := volumes } volumes w = w := by
  cases volumes <;> simp [freeResolved, destroyVolumes]

theorem getVolumeGroup_opened (id : String) (w : World) (init : w.fault w.sent.length = none) :
    (w.sendAll Request.apply [.initCommonVolumeGroup id, .getVolumeGroupAttributes id]).state =
      { w.state with nextHandle := w.state.nextHandle + 1,
                     connections := w.state.connections ++ [w.state.nextHandle] } := by
  unfold Client.sendAll
  simp only [List.foldl_cons, List.foldl_nil, Client.send, init]
  split <;> rfl

theorem getVolumeGroup_of_attributes_failure {order : RangeOrder} {id : String} {w : World} {err : Error}
    (init : w.fault w.sent.length = none) (attrs : w.fault (w.sent.length + 1) = some err) :
    getVolumeGroup order id w =
      (if err.is errRBDGroupNotFound then
        ((some ⟨id, (w.state.groupOf id).name, (w.state.groupOf id).pool, some w.state.nextHandle, [], []⟩,
          some err), w.sendAll Request.apply [.initCommonVolumeGroup id, .getVolumeGroupAttributes id])
      else ((none, some (.wrap "failed to get volume attributes for id %q: %w" [id] err)),
        w.sendAll Request.apply [.initCommonVolumeGroup id, .getVolumeGroupAttributes id])) := by
  simp only [getVolumeGroup, World.request, Client.send, init, attrs, List.length_append,
    List.length_singleton, Client.sendAll_cons, Client.sendAll_nil, Request.apply_groupOf]

/-- The four ways a load ends: `initCommonVolumeGroup` fails; the attribute lookup fails; the
`k`-th volume fails to resolve and the ones before it are freed; or the group owns them all. -/
theorem getVolumeGroup_cases (order : RangeOrder) (id : String) (w : World) :
    let r := getVolumeGroup order id w
    let conn := w.state.nextHandle
    let record := w.state.groupOf id
    let keys := order.walk (w.state.journal (record.pool, record.objectUUID))
    let vg : VolumeGroup := ⟨id, record.name, record.pool, some conn, [], []⟩
    let opened := w.sendAll Request.apply [.initCommonVolumeGroup id, .getVolumeGroupAttributes id]
    let planned := resolvedVolumes w.state.imageName (conn + 1) keys
    (w.fault w.sent.length ≠ none ∧ r.1 = (none, r.1.2) ∧ r.1.2 ≠ none ∧
        r.2 = w.sendAll Request.apply [.initCommonVolumeGroup id]) ∨
    (w.fault w.sent.length = none ∧ w.fault (w.sent.length + 1) ≠ none ∧ r.1.2 ≠ none ∧
        (r.1.1 = none ∨ r.1.1 = some vg) ∧ r.2 = opened) ∨
    (w.fault w.sent.length = none ∧ w.fault (w.sent.length + 1) = none ∧ r.1.1 = none ∧ r.1.2 ≠ none ∧
        ∃ k < keys.length, r.2 = destroyVolumes (planned.take k)
          (opened.sendAll Request.apply ((resolveRequests w.state.imageName (conn + 1) keys).take (k + 1)))) ∨
    (w.fault w.sent.length = none ∧ w.fault (w.sent.length + 1) = none ∧
        r.1 = (some { vg with volumes := planned, volumesToFree := planned }, none) ∧
        r.2 = opened.sendAll Request.apply (resolveRequests w.state.imageName (conn + 1) keys)) := by
  cases init : w.fault w.sent.length with
  | some err =>
    have ended : getVolumeGroup order id w =
        ((none, some (.wrap "failed to initialize volume group with id %q: %w" [id] err)),
          w.sendAll Request.apply [.initCommonVolumeGroup id]) := by
      simp [getVolumeGroup, World.request, Client.send, init]
    exact .inl ⟨by simp, by simp [ended], by simp [ended], by simp [ended]⟩
  | none =>
    cases attrs : w.fault (w.sent.length + 1) with
    | some err =>
      have ended := @getVolumeGroup_of_attributes_failure order id w err init attrs
      refine .inr <| .inl ⟨rfl, by simp, ?_⟩
      rw [ended]
      split_ifs <;> simp
    | none =>
      have openedState := getVolumeGroup_opened id w init
      have unfolded : getVolumeGroup order id w =
          match resolveVolumes (order.walk (w.state.journal ((w.state.groupOf id).pool, (w.state.groupOf id).objectUUID))) []
            (w.sendAll Request.apply [.initCommonVolumeGroup id, .getVolumeGroupAttributes id]) with
          | ((volumes, some err), w') =>
            ((none, some (.wrap "failed to get attributes for volume group id %q: %w" [id] err)),
              freeResolved ⟨id, (w.state.groupOf id).name, (w.state.groupOf id).pool, some w.state.nextHandle,
                [], []⟩ volumes w')
          | ((volumes, none), w') =>
            ((some ⟨id, (w.state.groupOf id).name, (w.state.groupOf id).pool, some w.state.nextHandle,
                volumes, volumes⟩, none),
              freeResolved ⟨id, (w.state.groupOf id).name, (w.state.groupOf id).pool, some w.state.nextHandle,
                volumes, volumes⟩ volumes w') := by
        simp only [getVolumeGroup, World.request, Client.send, init, attrs, List.length_append,
          List.length_singleton, Client.sendAll_cons, Client.sendAll_nil]
        rfl
      rw [unfolded]
      have spec := resolveVolumes_spec
        (order.walk (w.state.journal ((w.state.groupOf id).pool, (w.state.groupOf id).objectUUID))) []
        (w.sendAll Request.apply [.initCommonVolumeGroup id, .getVolumeGroupAttributes id])
      rcases hr : resolveVolumes (order.walk (w.state.journal ((w.state.groupOf id).pool, (w.state.groupOf id).objectUUID))) []
        (w.sendAll Request.apply [.initCommonVolumeGroup id, .getVolumeGroupAttributes id]) with
        ⟨⟨volumes, err⟩, w'⟩
      rw [hr, openedState] at spec
      simp only [List.nil_append] at spec
      cases err with
      | none =>
        rcases spec with ⟨-, rfl, -, rfl⟩ | ⟨failed, -⟩
        · exact .inr <| .inr <| .inr ⟨rfl, rfl, rfl, freeResolved_taken
            ⟨id, (w.state.groupOf id).name, (w.state.groupOf id).pool, some w.state.nextHandle, [], []⟩ _ _⟩
        · exact absurd rfl failed
      | some err =>
        rcases spec with ⟨done, -⟩ | ⟨-, k, lt, rfl, rfl⟩
        · cases done
        · exact .inr <| .inr <| .inl ⟨rfl, rfl, rfl, by simp, k, lt, rfl⟩

theorem resolveRequests_take (imageName : String → String) (handle k : Nat) (ids : List String) :
    (resolveRequests imageName handle ids).take k =
      ((resolvedVolumes imageName handle ids).take k).map fun v => .getVolumeByID v.id v.handle := by
  simp [resolveRequests, List.map_take]

/-- A load that fails after `initCommonVolumeGroup` succeeded returns no group object, and
never calls `commonVolumeGroup.Destroy`: the connection it opened stays open. -/
theorem getVolumeGroup_leaks_connection (order : RangeOrder) (id : String) (w : World)
    (initialized : w.fault w.sent.length = none) (noGroup : (getVolumeGroup order id w).1.1 = none) :
    w.state.nextHandle ∈ (getVolumeGroup order id w).2.state.connections ∧
      ∀ conn, Request.commonDestroy conn ∉ (getVolumeGroup order id w).2.sent.drop w.sent.length := by
  have opened := getVolumeGroup_opened id w initialized
  rcases getVolumeGroup_cases order id w with ⟨failed, -⟩ | ⟨-, -, -, -, world⟩ |
    ⟨-, -, -, -, k, -, world⟩ | ⟨-, -, result, -⟩
  · exact absurd initialized failed
  · exact ⟨by rw [world, opened]; simp, fun conn => by simp [world]⟩
  · have kept : ((w.sendAll Request.apply [.initCommonVolumeGroup id, .getVolumeGroupAttributes id]).sendAll
        Request.apply ((resolveRequests w.state.imageName (w.state.nextHandle + 1)
          (order.walk (w.state.journal ((w.state.groupOf id).pool, (w.state.groupOf id).objectUUID)))).take (k + 1))).state.connections =
        w.state.connections ++ [w.state.nextHandle] := by
      rw [Client.sendAll_preserves Cluster.connections, opened]
      intro r mem c
      rw [resolveRequests_take] at mem
      obtain ⟨v, -, rfl⟩ := List.mem_map.mp mem
      rfl
    refine ⟨by rw [world, destroyVolumes_state, kept]; simp, fun conn mem => ?_⟩
    simp only [world, destroyVolumes_sent, Client.sendAll_sent, List.append_assoc, List.drop_left,
      resolveRequests_take, List.mem_append, List.mem_map] at mem
    rcases mem with opening | ⟨v, -, same⟩ | ⟨v, -, same⟩
    · simp at opening
    · cases same
    · cases same
  · simp [result] at noGroup

/-- A call a caller makes on a group object it holds. -/
inductive GroupCall where
  | addVolume (vol : Volume)
  | removeVolume (vol : Volume)
  | listVolumes
  | toCSI
  | createSnapshots (name : String)
  | destroy
  deriving DecidableEq, Repr

/-- One call: the group object and the world after it; what the call returns is dropped. -/
def GroupCall.run : GroupCall → VolumeGroup → World → VolumeGroup × World
  | .addVolume vol, vg, w => (vg.addVolume vol w).2
  | .removeVolume vol, vg, w => (vg.removeVolume vol w).2
  | .listVolumes, vg, w => (vg, w)
  | .toCSI, vg, w => (vg, (vg.toCSI w).2)
  | .createSnapshots name, vg, w => (vg, (vg.createSnapshots name w).2)
  | .destroy, vg, w => vg.destroy w

/-- Calls made one after the other on one group object. -/
def runCalls : List GroupCall → VolumeGroup → World → VolumeGroup × World
  | [], vg, w => (vg, w)
  | c :: cs, vg, w => runCalls cs (c.run vg w).1 (c.run vg w).2

/-! ## Ownership of the resolved volumes -/

theorem no_destroys_of_prefix {l rs : List Request} (pre : l <+: rs)
    (none_in : rs.filterMap Request.destroyedVolume = []) : l.filterMap Request.destroyedVolume = [] :=
  List.prefix_nil.mp (none_in ▸ pre.filterMap Request.destroyedVolume)

theorem csiVolumes_sent (vs : List Volume) (done : List CsiVolume) (w : World) :
    ∃ l, (csiVolumes vs done w).2 = w.sendAll Request.apply l ∧ l.filterMap Request.destroyedVolume = [] := by
  induction vs generalizing done w with
  | nil => exact ⟨[], rfl, rfl⟩
  | cons v vs ih =>
    cases first : w.fault w.sent.length with
    | some err => exact ⟨[.volumeToCSI v.handle], by simp [csiVolumes, World.request, Client.send, first],
        rfl⟩
    | none =>
      obtain ⟨l, sent, none_in⟩ := ih (done ++ [⟨v.id⟩]) (w.send Request.apply (.volumeToCSI v.handle)).2
      refine ⟨.volumeToCSI v.handle :: l, ?_, by simpa [Request.destroyedVolume] using none_in⟩
      simpa [csiVolumes, World.request, Client.send, first] using sent

theorem destroyRequests_volumes (snapshots : List (Option Snapshot)) :
    (destroyRequests snapshots).filterMap Request.destroyedVolume = [] := by
  induction snapshots <;> simp_all [destroyRequests, Request.destroyedVolume]

theorem destroyVolumes_volumes (volumes : List Volume) :
    (volumes.map fun v => Request.volumeDestroy v.handle).filterMap Request.destroyedVolume =
      volumes.map Volume.handle := by
  induction volumes <;> simp_all [Request.destroyedVolume]

theorem plannedRequests_destroys (group : String) (vs : List Volume) (i handle : Nat)
    (info : List GroupSnap) :
    (plannedRequests group vs i handle info).filterMap Request.destroyedVolume = [] :=
  List.filterMap_eq_nil_iff.mpr fun r mem => by
    rcases plannedRequests_calls _ _ _ _ _ r mem with ⟨v, rfl⟩ | named
    · rfl
    · cases r <;> first | rfl | simp [Request.snapshotName] at named

theorem createSnapshots_destroys (vg : VolumeGroup) (name : String) (w : World) :
    ∃ new, (vg.createSnapshots name w).2.sent = w.sent ++ new ∧
      new.filterMap Request.destroyedVolume = [] := by
  rcases createSnapshots_cases vg name w with ⟨-, -, -, l, pre, sent⟩ | ⟨-, -, -, -, sent⟩ |
    ⟨-, -, -, -, l, pre, k, -, sent⟩ | ⟨-, -, -, -, sent⟩ <;>
    simp only [sent, destroySnapshots_sent, Client.sendAll_sent, Client.sendAll_append, List.append_assoc] <;>
    refine ⟨_, rfl, ?_⟩
  · exact no_destroys_of_prefix pre rfl
  · rfl
  · simp only [List.filterMap_append, no_destroys_of_prefix pre (plannedRequests_destroys _ _ _ _ _),
      destroyRequests_volumes]
    rfl
  · simp only [List.filterMap_append, plannedRequests_destroys]
    rfl

theorem GroupCall.run_destroys (c : GroupCall) (vg : VolumeGroup) (w : World) :
    ∃ new, (c.run vg w).2.sent = w.sent ++ new ∧
      new.filterMap Request.destroyedVolume =
        (if c = .destroy then vg.volumesToFree.map Volume.handle else []) ∧
      (c.run vg w).1.volumesToFree = if c = .destroy then [] else vg.volumesToFree := by
  cases c with
  | addVolume vol =>
    obtain ⟨l, pre, sent, same | appended, -⟩ := addVolume_spec vg vol w <;>
    exact ⟨l, by simp [GroupCall.run, sent], no_destroys_of_prefix pre
      (by simp [addVolumeRequests, Request.destroyedVolume]), by simp [GroupCall.run, *]⟩
  | removeVolume vol =>
    obtain ⟨same | filtered, l, pre, sent, -⟩ := removeVolume_spec vg vol w <;>
    exact ⟨l, by simp [GroupCall.run, sent], no_destroys_of_prefix pre
      (by simp [removeVolumeRequests, Request.destroyedVolume]), by simp [GroupCall.run, *]⟩
  | listVolumes => exact ⟨[], by simp [GroupCall.run], rfl, rfl⟩
  | toCSI =>
    obtain ⟨l, sent, none_in⟩ := csiVolumes_sent vg.volumes [] w
    rcases hc : csiVolumes vg.volumes [] w with ⟨⟨vols, _ | err⟩, w'⟩ <;> rw [hc] at sent <;> simp only at sent
    · refine ⟨l ++ [.getID], ?_, by rw [List.filterMap_append, none_in]; rfl, rfl⟩
      have sentID := @Client.send_sent Request Cluster Request.apply .getID (w.sendAll Request.apply l)
      simp only [GroupCall.run, VolumeGroup.toCSI, VolumeGroup.listVolumes, hc, sent, World.request]
      rcases hs : Client.send Request.apply .getID (w.sendAll Request.apply l) with ⟨_ | _, w''⟩ <;>
        rw [hs] at sentID <;> simpa using sentID
    · exact ⟨l, by simp [GroupCall.run, VolumeGroup.toCSI, VolumeGroup.listVolumes, hc, sent], none_in, rfl⟩
  | createSnapshots name =>
    obtain ⟨new, sent, none_in⟩ := createSnapshots_destroys vg name w
    exact ⟨new, by simp [GroupCall.run, sent], none_in, rfl⟩
  | destroy =>
    by_cases owned : vg.volumesToFree.length > 0
    · exact ⟨vg.volumesToFree.map (fun v => .volumeDestroy v.handle) ++ [.commonDestroy vg.conn],
        by simp [GroupCall.run, VolumeGroup.destroy, VolumeGroup.commonDestroy, owned, World.note],
        by rw [List.filterMap_append, destroyVolumes_volumes]; simp [Request.destroyedVolume],
        by simp [GroupCall.run, VolumeGroup.destroy, VolumeGroup.commonDestroy, owned]⟩
    · have none_owned : vg.volumesToFree = [] := List.length_eq_zero.mp (by omega)
      exact ⟨[.commonDestroy vg.conn],
        by simp [GroupCall.run, VolumeGroup.destroy, VolumeGroup.commonDestroy, owned, World.note],
        by simp [Request.destroyedVolume, none_owned],
        by simp [GroupCall.run, VolumeGroup.destroy, VolumeGroup.commonDestroy, owned, none_owned]⟩

theorem runCalls_destroys (cs : List GroupCall) (vg : VolumeGroup) (w : World) :
    ∃ new, (runCalls cs vg w).2.sent = w.sent ++ new ∧
      new.filterMap Request.destroyedVolume =
        (if GroupCall.destroy ∈ cs then vg.volumesToFree.map Volume.handle else []) ∧
      (runCalls cs vg w).1.volumesToFree = if GroupCall.destroy ∈ cs then [] else vg.volumesToFree := by
  induction cs generalizing vg w with
  | nil => exact ⟨[], by simp [runCalls], rfl, rfl⟩
  | cons c cs ih =>
    obtain ⟨new, sent, destroyed, freed⟩ := c.run_destroys vg w
    obtain ⟨new', sent', destroyed', freed'⟩ := ih (c.run vg w).1 (c.run vg w).2
    refine ⟨new ++ new', by simp [runCalls, sent', sent], ?_, ?_⟩ <;>
      simp only [runCalls, List.filterMap_append, destroyed, destroyed', freed, freed'] <;>
      by_cases first : c = .destroy
    · subst first
      by_cases later : GroupCall.destroy ∈ cs <;> simp [later]
    · simp [first, Ne.symm first]
    · subst first
      by_cases later : GroupCall.destroy ∈ cs <;> simp [later]
    · simp [first, Ne.symm first]

theorem getVolumeByID_volumes (volumes : List Volume) :
    (volumes.map fun v => Request.getVolumeByID v.id v.handle).filterMap Request.resolvedVolume =
      volumes.map Volume.handle ∧
    (volumes.map fun v => Request.getVolumeByID v.id v.handle).filterMap Request.destroyedVolume = [] ∧
    (volumes.map fun v => Request.volumeDestroy v.handle).filterMap Request.resolvedVolume = [] := by
  induction volumes <;> simp_all [Request.resolvedVolume, Request.destroyedVolume]

theorem dropLast_take_succ {α : Type} (l : List α) (k : Nat) (lt : k < l.length) :
    (l.take (k + 1)).dropLast = l.take k := by
  rw [List.dropLast_eq_take, List.take_take, List.length_take]
  congr 1
  omega

/-- Over a load and any run after it, `Destroy` is called on exactly the volume objects the load
resolved, each once: by the load when it fails, else by the group's first `Destroy`. -/
theorem resolved_volumes_destroyed_once (order : RangeOrder) (id : String) (w : World) (cs : List GroupCall) :
    let loaded := getVolumeGroup order id w
    let new := loaded.2.sent.drop w.sent.length
    let resolved := new.filterMap Request.resolvedVolume
    resolved.Nodup ∧
      (loaded.1.1 = none → new.filterMap Request.destroyedVolume = resolved.dropLast) ∧
      ∀ vg, loaded.1.1 = some vg →
        new.filterMap Request.destroyedVolume = [] ∧ vg.volumesToFree.map Volume.handle = resolved ∧
        ((runCalls cs vg loaded.2).2.sent.drop loaded.2.sent.length).filterMap Request.destroyedVolume =
          if GroupCall.destroy ∈ cs then resolved else [] := by
  have run (vg : VolumeGroup) :
      ((runCalls cs vg (getVolumeGroup order id w).2).2.sent.drop (getVolumeGroup order id w).2.sent.length).filterMap
        Request.destroyedVolume = if GroupCall.destroy ∈ cs then vg.volumesToFree.map Volume.handle else [] := by
    obtain ⟨new, sent, destroyed, -⟩ := runCalls_destroys cs vg (getVolumeGroup order id w).2
    simpa [sent] using destroyed
  have handles := resolvedVolumes_handles w.state.imageName (w.state.nextHandle + 1)
    (order.walk (w.state.journal ((w.state.groupOf id).pool, (w.state.groupOf id).objectUUID)))
  rcases getVolumeGroup_cases order id w with ⟨-, result, -, world⟩ | ⟨-, -, -, result, world⟩ |
    ⟨-, -, result, -, k, lt, world⟩ | ⟨-, -, result, world⟩
  · have newEq : (getVolumeGroup order id w).2.sent.drop w.sent.length = [.initCommonVolumeGroup id] := by
      simp [world]
    simp only [newEq]
    refine ⟨by simp [Request.resolvedVolume], fun _ => by simp [Request.destroyedVolume, Request.resolvedVolume],
      fun vg loaded => ?_⟩
    rw [result] at loaded
    cases loaded
  · have newEq : (getVolumeGroup order id w).2.sent.drop w.sent.length =
        [.initCommonVolumeGroup id, .getVolumeGroupAttributes id] := by
      simp [world]
    simp only [newEq]
    refine ⟨by simp [Request.resolvedVolume], fun _ => by simp [Request.destroyedVolume, Request.resolvedVolume],
      fun vg loaded => ?_⟩
    rcases result with none_loaded | some_loaded
    · simp [none_loaded] at loaded
    · rw [some_loaded, Option.some_inj] at loaded
      subst loaded
      simp [Request.resolvedVolume, Request.destroyedVolume, run]
  · let planned := resolvedVolumes w.state.imageName (w.state.nextHandle + 1)
      (order.walk (w.state.journal ((w.state.groupOf id).pool, (w.state.groupOf id).objectUUID)))
    have newEq : (getVolumeGroup order id w).2.sent.drop w.sent.length =
        [.initCommonVolumeGroup id, .getVolumeGroupAttributes id] ++
          (planned.take (k + 1)).map (fun v => .getVolumeByID v.id v.handle) ++
          (planned.take k).map (fun v => .volumeDestroy v.handle) := by
      simp only [world, destroyVolumes_sent, Client.sendAll_sent, List.append_assoc, List.drop_left,
        resolveRequests_take]
    obtain ⟨resolved, notDestroyed, -⟩ := getVolumeByID_volumes (planned.take (k + 1))
    obtain ⟨-, -, notResolved⟩ := getVolumeByID_volumes (planned.take k)
    have plannedHandles : planned.map Volume.handle = _ := handles
    simp only [newEq, List.filterMap_append, resolved, notDestroyed, notResolved,
      destroyVolumes_volumes]
    simp only [List.map_take, plannedHandles]
    refine ⟨?_, fun _ => ?_, fun vg loaded => by simp [result] at loaded⟩
    · simpa [Request.resolvedVolume] using
        (List.nodup_range' _ _).sublist (List.take_sublist (k + 1) _)
    · simp only [Request.destroyedVolume, Request.resolvedVolume, List.filterMap_cons_none,
        List.filterMap_nil, List.nil_append, List.append_nil]
      rw [dropLast_take_succ]
      simpa using lt
  · let planned := resolvedVolumes w.state.imageName (w.state.nextHandle + 1)
      (order.walk (w.state.journal ((w.state.groupOf id).pool, (w.state.groupOf id).objectUUID)))
    have newEq : (getVolumeGroup order id w).2.sent.drop w.sent.length =
        [.initCommonVolumeGroup id, .getVolumeGroupAttributes id] ++
          planned.map (fun v => .getVolumeByID v.id v.handle) := by
      simp only [world, Client.sendAll_sent, List.append_assoc, List.drop_left, resolveRequests]
    obtain ⟨resolved, notDestroyed, -⟩ := getVolumeByID_volumes planned
    have plannedHandles : planned.map Volume.handle = _ := handles
    simp only [newEq, List.filterMap_append, resolved, notDestroyed, plannedHandles]
    refine ⟨by simpa [Request.resolvedVolume] using List.nodup_range' _ _, fun none_loaded => ?_,
      fun vg loaded => ?_⟩
    · simp [result] at none_loaded
    · rw [result, Option.some_inj] at loaded
      subst loaded
      simp [Request.resolvedVolume, Request.destroyedVolume, run, handles]

/-! ## Unique members -/

/-- Every `AddVolume` of the calls is of a volume the member list does not hold at that point. -/
def freshAdds : List GroupCall → VolumeGroup → World → Bool
  | [], _, _ => true
  | c :: cs, vg, w =>
    (match c with
     | .addVolume vol => decide (vol.id ∉ vg.memberIDs)
     | _ => true) && freshAdds cs (c.run vg w).1 (c.run vg w).2

theorem VolumeGroup.destroy_volumes (vg : VolumeGroup) (w : World) :
    (vg.destroy w).1.volumes = vg.volumes := by
  unfold VolumeGroup.destroy VolumeGroup.commonDestroy
  split_ifs <;> rfl

theorem GroupCall.run_nodup (c : GroupCall) (vg : VolumeGroup) (w : World)
    (fresh : ∀ vol, c = .addVolume vol → vol.id ∉ vg.memberIDs) (nodup : vg.memberIDs.Nodup) :
    (c.run vg w).1.memberIDs.Nodup := by
  cases c with
  | addVolume vol =>
    obtain ⟨-, -, -, same | appended, -⟩ := addVolume_spec vg vol w
    · simpa [GroupCall.run, same] using nodup
    · simp only [GroupCall.run, appended, VolumeGroup.memberIDs, List.map_append, List.map_singleton]
      exact List.nodup_append.mpr ⟨nodup, List.nodup_singleton _, List.disjoint_singleton.mpr (fresh vol rfl)⟩
  | removeVolume vol =>
    obtain ⟨same | filtered, -⟩ := removeVolume_spec vg vol w
    · simpa [GroupCall.run, same] using nodup
    · simp only [GroupCall.run, filtered, VolumeGroup.memberIDs]
      exact nodup.sublist ((List.filter_sublist _).map _)
  | destroy => simpa [GroupCall.run, VolumeGroup.memberIDs, VolumeGroup.destroy_volumes] using nodup
  | listVolumes => exact nodup
  | toCSI => exact nodup
  | createSnapshots => exact nodup

theorem runCalls_nodup (cs : List GroupCall) (vg : VolumeGroup) (w : World)
    (fresh : freshAdds cs vg w = true) (nodup : vg.memberIDs.Nodup) :
    (runCalls cs vg w).1.memberIDs.Nodup := by
  induction cs generalizing vg w with
  | nil => exact nodup
  | cons c cs ih =>
    simp only [freshAdds, Bool.and_eq_true] at fresh
    refine ih _ _ fresh.2 (c.run_nodup vg w (fun vol same => ?_) nodup)
    subst same
    simpa using fresh.1

/-- A loaded group lists each volume ID once, and keeps doing so over any run whose
`AddVolume`s are of volumes it does not list. -/
theorem member_ids_nodup (order : RangeOrder) (id : String) (w : World) (cs : List GroupCall) (vg : VolumeGroup)
    (loaded : (getVolumeGroup order id w).1.1 = some vg)
    (fresh : freshAdds cs vg (getVolumeGroup order id w).2 = true) :
    (runCalls cs vg (getVolumeGroup order id w).2).1.memberIDs.Nodup := by
  refine runCalls_nodup cs vg _ fresh ?_
  rcases getVolumeGroup_cases order id w with ⟨-, result, -⟩ | ⟨-, -, -, none_loaded | some_loaded, -⟩ |
    ⟨-, -, result, -⟩ | ⟨-, -, result, -⟩
  · rw [result] at loaded
    cases loaded
  · simp [none_loaded] at loaded
  · rw [some_loaded, Option.some_inj] at loaded
    subst loaded
    simp [VolumeGroup.memberIDs]
  · simp [result] at loaded
  · rw [result, Option.some_inj] at loaded
    subst loaded
    simp only [VolumeGroup.memberIDs, resolvedVolumes_ids]
    exact (order.perm _).nodup_iff.mpr (KeySet.nodup _)

/-- The group `oneVolumeCluster` holds, as `GetVolumeGroup` loads it. -/
def loadedGroup : VolumeGroup :=
  ⟨"g1", "group-1", "pool-1", some 1, [⟨2, "vol-1", "img-1"⟩], [⟨2, "vol-1", "img-1"⟩]⟩

/-- A run that adds a new volume, removes the loaded one and destroys the group. -/
theorem add_remove_keeps_ids_apart :
    let w : World := ⟨oneVolumeCluster, [], fun _ => none⟩
    let cs := [GroupCall.addVolume ⟨0, "vol-2", "img-2"⟩, .removeVolume ⟨5, "vol-1", "img-1"⟩, .destroy]
    (getVolumeGroup .inserted "g1" w).1.1 = some loadedGroup ∧ freshAdds cs loadedGroup (getVolumeGroup .inserted "g1" w).2 = true ∧
      (runCalls cs loadedGroup (getVolumeGroup .inserted "g1" w).2).1.memberIDs.Nodup :=
  ⟨by decide, by decide, member_ids_nodup _ _ _ _ _ (by decide) (by decide)⟩

/-- A `RemoveVolume` that fails on its `GetID` has taken the image out of the rbd group and
left the volume listed; adding the volume again lists its ID twice. -/
theorem readd_after_failed_remove_duplicates :
    let w : World := ⟨oneVolumeCluster, [], fun n => if n = 4 then some (.sentinel "ETIMEDOUT") else none⟩
    let vol : Volume := ⟨0, "vol-1", "img-1"⟩
    (getVolumeGroup .inserted "g1" w).1.1 = some loadedGroup ∧
      (loadedGroup.removeVolume vol (getVolumeGroup .inserted "g1" w).2).1 ≠ none ∧
      (runCalls [.removeVolume vol, .addVolume vol] loadedGroup (getVolumeGroup .inserted "g1" w).2).1.memberIDs =
        ["vol-1", "vol-1"] := by
  decide

/-- The attribute lookup fails with an error other than "not found": the connection stays open. -/
theorem failed_lookup_leaves_connection :
    let w : World := ⟨oneVolumeCluster, [], fun n => if n = 1 then some (.sentinel "EIO") else none⟩
    w.fault w.sent.length = none ∧ (getVolumeGroup .inserted "g1" w).1.1 = none ∧
      w.state.nextHandle ∈ (getVolumeGroup .inserted "g1" w).2.state.connections :=
  ⟨rfl, by decide, (getVolumeGroup_leaks_connection .inserted "g1" _ rfl (by decide)).1⟩

end CephCsi.Rbd
