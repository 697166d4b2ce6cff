import CephCsi.CephFS.Clone

namespace CephCsi.CephFS

variable (s parent : SubVolume) (snap : Snapshot) (w : World)

/-- The main path of `CreateCloneFromSubvolume`, its requests' steps in order. -/
def subvolumeSteps : List (World → Option Error × World) :=
  [(newSnapshot s.volID parent).createSnapshot, (newSnapshot s.volID parent).cloneSnapshot s,
    s.checkCloneState, s.expandVolume s.size, (newSnapshot s.volID parent).deleteSnapshot]

def subvolumeRequests : List Request :=
  [.createSnapshot parent.volID s.volID, .cloneSnapshot parent.volID s.volID s.volID,
    .getFSAdmin, .cloneStatus s.volID, .expandVolume s.volID s.size,
    .deleteSnapshot parent.volID s.volID]

def snapshotSteps : List (World → Option Error × World) :=
  [(newSnapshot snap.snapshotID snap.subVolume).cloneSnapshot s, s.checkCloneState,
    s.expandVolume s.size]

def snapshotRequests : List Request :=
  [.cloneSnapshot snap.subVolume.volID snap.snapshotID s.volID, .getFSAdmin,
    .cloneStatus s.volID, .expandVolume s.volID s.size]

theorem subvolumeSteps_eq :
    subvolumeSteps s parent =
      [Request.createSnapshot parent.volID s.volID, .cloneSnapshot parent.volID s.volID s.volID].map
        World.request ++
      s.checkCloneState :: [Request.expandVolume s.volID s.size, .deleteSnapshot parent.volID s.volID].map
        World.request := rfl

theorem snapshotSteps_eq :
    snapshotSteps s snap =
      [Request.cloneSnapshot snap.subVolume.volID snap.snapshotID s.volID].map World.request ++
        s.checkCloneState :: [Request.expandVolume s.volID s.size].map World.request := rfl

theorem compensate_requests (rs : List Request) (err : Option Error) :
    compensate (rs.map World.request) err w =
      if err.any (fun e => !isCloneRetryError e) then w.sendAll Request.apply rs else w := by
  cases err with
  | none => rfl
  | some e =>
    by_cases retry : isCloneRetryError e <;>
      simp [compensate, retry, Client.sendAll, List.foldl_map, World.request]

/-! ## The main paths, by their first failing step -/

/-- A chain of plain requests stops at the first that fails; when none fails, the rest runs. -/
theorem chain_requests (rs : List Request) (rest : List (World → Option Error × World)) (w : World) :
    (w.Succeeds rs.length ∧
        chain (rs.map World.request ++ rest) w = chain rest (w.sendAll Request.apply rs)) ∨
      ∃ k < rs.length, ∃ err, w.Succeeds k ∧ w.fault (w.sent.length + k) = some err ∧
        chain (rs.map World.request ++ rest) w = (some err, w.sendAll Request.apply (rs.take (k + 1))) := by
  induction rs generalizing w with
  | nil => exact .inl ⟨fun _ h => absurd h (Nat.not_lt_zero _), rfl⟩
  | cons r rs ih =>
    cases first : w.fault w.sent.length with
    | some err =>
      exact .inr ⟨0, by simp, err, fun _ h => absurd h (Nat.not_lt_zero _), first,
        by simp [chain_cons, World.request, Client.send_of_fault first]⟩
    | none =>
      have step : chain ((r :: rs).map World.request ++ rest) w =
          chain (rs.map World.request ++ rest) (w.send Request.apply r).2 := by
        simp [chain_cons, World.request, Client.send_of_ok first]
      rw [step]
      rcases ih (w.send Request.apply r).2 with ⟨succeeds, ran⟩ | ⟨k, lt, err, succeeds, failed, ran⟩
      · exact .inl ⟨Client.succeeds_cons first succeeds, ran⟩
      · refine .inr ⟨k + 1, by simpa using lt, err, Client.succeeds_cons first succeeds, ?_, ran⟩
        simpa [Nat.add_assoc, Nat.add_comm 1 k] using failed

theorem checkCloneState_cases :
    (w.Succeeds 2 ∧ s.checkCloneState w =
        ((s.getCloneState w).1.1.toError, w.sendAll Request.apply [.getFSAdmin, .cloneStatus s.volID])) ∨
      ∃ k < 2, ∃ err, w.Succeeds k ∧ w.fault (w.sent.length + k) = some err ∧
        s.checkCloneState w =
          (some err, w.sendAll Request.apply ([.getFSAdmin, .cloneStatus s.volID].take (k + 1))) := by
  cases first : w.fault w.sent.length with
  | some err =>
    exact .inr ⟨0, by decide, err, fun _ h => absurd h (Nat.not_lt_zero _), first, by
      simp [SubVolume.checkCloneState, SubVolume.getCloneState, World.request, Client.send_of_fault first]⟩
  | none =>
    cases second : w.fault (w.sent.length + 1) with
    | some err =>
      refine .inr ⟨1, by decide, err, fun i lt => by simpa [Nat.lt_one_iff.mp lt] using first, second, ?_⟩
      simp [SubVolume.checkCloneState, SubVolume.getCloneState, World.request, Client.send, first, second]
    | none =>
      refine .inl ⟨fun i lt => ?_, ?_⟩
      · match i, lt with
        | 0, _ => simpa using first
        | 1, _ => simpa using second
      · simp [SubVolume.checkCloneState, SubVolume.getCloneState, World.request, Client.send, first, second]

/-- A main path from its state check on. -/
theorem checkThen_cases (post : List Request) :
    let rs := [.getFSAdmin, .cloneStatus s.volID] ++ post
    let stateError := (s.getCloneState w).1.1.toError
    let r := chain (s.checkCloneState :: post.map World.request) w
    (w.Succeeds rs.length ∧ stateError = none ∧ r = (none, w.sendAll Request.apply rs)) ∨
      ∃ k < rs.length, ∃ err, w.Succeeds k ∧
        (w.fault (w.sent.length + k) = some err ∨
          k = 1 ∧ w.fault (w.sent.length + k) = none ∧ stateError = some err) ∧
        r = (some err, w.sendAll Request.apply (rs.take (k + 1))) := by
  dsimp only
  rw [chain_cons]
  rcases checkCloneState_cases s w with ⟨checkOk, checked⟩ | ⟨j, lt, err, succeeds, failed, checked⟩
  swap
  · refine .inr ⟨j, by simp; omega, err, succeeds, .inl failed, ?_⟩
    rw [checked, List.take_append_of_le_length (by simp; omega)]
  rw [checked]
  cases stateResult : (s.getCloneState w).1.1.toError with
  | some err =>
    refine .inr ⟨1, by simp, err, fun i lt => checkOk i (by omega),
      .inr ⟨rfl, checkOk 1 (by omega), rfl⟩, by simp⟩
  | none =>
    replace checkOk : w.Succeeds [Request.getFSAdmin, .cloneStatus s.volID].length := checkOk
    rcases chain_requests post [] (w.sendAll Request.apply [.getFSAdmin, .cloneStatus s.volID]) with
      ⟨postOk, ran⟩ | ⟨j, lt, err, succeeds, failed, ran⟩ <;> simp only [List.append_nil] at ran <;> dsimp only
    · refine .inl ⟨by rw [List.length_append]; exact Client.succeeds_append checkOk postOk, rfl, ?_⟩
      rw [ran, chain_nil, Client.sendAll_append]
    · refine .inr ⟨2 + j, by simp; omega, err, Client.succeeds_append checkOk succeeds,
        .inl (by simpa [Nat.add_assoc] using failed), ?_⟩
      rw [ran, Nat.add_assoc, show 2 = [Request.getFSAdmin, .cloneStatus s.volID].length from rfl,
        List.take_append, Client.sendAll_append]

/-- A main path stops at its first failing step: the `k`-th request, with its error, or the state
check after `cloneStatus`, with `ToError` of the reported state. -/
theorem mainPath_cases (pre post : List Request) :
    let rs := pre ++ [.getFSAdmin, .cloneStatus s.volID] ++ post
    let stateError := (s.getCloneState (w.sendAll Request.apply pre)).1.1.toError
    let r := chain (pre.map World.request ++ s.checkCloneState :: post.map World.request) w
    (w.Succeeds rs.length ∧ stateError = none ∧ r = (none, w.sendAll Request.apply rs)) ∨
      ∃ k < rs.length, ∃ err, w.Succeeds k ∧
        (w.fault (w.sent.length + k) = some err ∨
          k = pre.length + 1 ∧ w.fault (w.sent.length + k) = none ∧ stateError = some err) ∧
        r = (some err, w.sendAll Request.apply (rs.take (k + 1))) := by
  induction pre generalizing w with
  | nil => simpa using checkThen_cases s w post
  | cons req pre ih =>
    dsimp only at ih ⊢
    cases first : w.fault w.sent.length with
    | some err =>
      exact .inr ⟨0, by simp, err, fun _ h => absurd h (Nat.not_lt_zero _), .inl first,
        by simp [chain_cons, World.request, Client.send_of_fault first]⟩
    | none =>
      have step : chain ((req :: pre).map World.request ++ s.checkCloneState :: post.map World.request) w =
          chain (pre.map World.request ++ s.checkCloneState :: post.map World.request)
            (w.send Request.apply req).2 := by
        simp [chain_cons, World.request, Client.send_of_ok first]
      rw [step]
      rcases ih (w.send Request.apply req).2 with ⟨succeeds, state, ran⟩ |
        ⟨k, lt, err, succeeds, failed, ran⟩
      · exact .inl ⟨by simpa using Client.succeeds_cons first succeeds, state, ran⟩
      · refine .inr ⟨k + 1, by simpa using lt, err, Client.succeeds_cons first succeeds, ?_, ran⟩
        simpa [Nat.add_assoc, Nat.add_comm 1 k] using failed

/-- The compensator `undo` follows the failing step exactly when the error is not retryable and
the first request had succeeded. -/
theorem compensated_run (pre post undo : List Request) :
    let rs := pre ++ [.getFSAdmin, .cloneStatus s.volID] ++ post
    let stateError := (s.getCloneState (w.sendAll Request.apply pre)).1.1.toError
    let main := chain (pre.map World.request ++ s.checkCloneState :: post.map World.request) w
    let world := if w.fault w.sent.length = none then
      compensate (undo.map World.request) main.1 main.2 else main.2
    (main.1 = none → w.Succeeds rs.length ∧ world = w.sendAll Request.apply rs) ∧
    ∀ err, main.1 = some err → ∃ k < rs.length, w.Succeeds k ∧
      (w.fault (w.sent.length + k) = some err ∨
        k = pre.length + 1 ∧ w.fault (w.sent.length + k) = none ∧ stateError = some err) ∧
      (isCloneRetryError err = true ∨ k = 0 → world = w.sendAll Request.apply (rs.take (k + 1))) ∧
      (isCloneRetryError err = false → 0 < k →
        world = w.sendAll Request.apply (rs.take (k + 1) ++ undo)) := by
  dsimp only
  rcases mainPath_cases s w pre post with ⟨succeeds, -, ran⟩ | ⟨k, lt, err, succeeds, failed, ran⟩
  · simp only [ran, compensate, ite_self, reduceCtorEq, false_implies, implies_true, and_true]
    exact fun _ => succeeds
  have first : w.fault w.sent.length = none ↔ 0 < k := by
    refine ⟨fun ok => Nat.pos_of_ne_zero fun zero => ?_, fun pos => by simpa using succeeds 0 pos⟩
    rcases failed with fault | ⟨same, -⟩ <;> simp_all
  simp only [ran, reduceCtorEq, false_implies, Option.some.injEq, forall_eq', true_and]
  refine ⟨k, lt, succeeds, failed, fun stops => ?_, fun retry pos => ?_⟩
  · rcases stops with retry | rfl
    · simp [compensate, retry]
    · simp [first]
  · simp [first.mpr pos, compensate_requests, retry, Client.sendAll_append]

theorem compensated_within (pre post undo : List Request) :
    let main := chain (pre.map World.request ++ s.checkCloneState :: post.map World.request) w
    ∃ l, (∀ r ∈ l, r ∈ pre ++ [.getFSAdmin, .cloneStatus s.volID] ++ post ++ undo) ∧
      (if w.fault w.sent.length = none then compensate (undo.map World.request) main.1 main.2
        else main.2) = w.sendAll Request.apply l := by
  obtain ⟨done, failed⟩ := compensated_run s w pre post undo
  dsimp only at done failed ⊢
  rcases Option.eq_none_or_eq_some
    (chain (pre.map World.request ++ s.checkCloneState :: post.map World.request) w).1 with
    result | ⟨err, result⟩
  · exact ⟨_, fun r mem => List.mem_append_left _ mem, (done result).2⟩
  obtain ⟨k, -, -, -, stops, undone⟩ := failed err result
  by_cases compensated : isCloneRetryError err = false ∧ 0 < k
  · refine ⟨_, fun r mem => ?_, undone compensated.1 compensated.2⟩
    rcases List.mem_append.mp mem with mem | mem
    · exact List.mem_append_left _ (List.mem_of_mem_take mem)
    · exact List.mem_append_right _ mem
  · simp only [not_and_or, Bool.not_eq_false, Nat.not_lt, Nat.le_zero] at compensated
    exact ⟨_, fun r mem => List.mem_append_left _ (List.mem_of_mem_take mem), stops compensated⟩

theorem createCloneFromSubvolume_eq :
    s.createCloneFromSubvolume parent w =
      ((chain (subvolumeSteps s parent) w).1,
        if w.fault w.sent.length = none then
          compensate ([Request.purgeVolume s.volID, .deleteSnapshot parent.volID s.volID].map
            World.request) (chain (subvolumeSteps s parent) w).1 (chain (subvolumeSteps s parent) w).2
        else (chain (subvolumeSteps s parent) w).2) := by
  simp only [SubVolume.createCloneFromSubvolume, subvolumeSteps, chain_cons]
  cases first : w.fault w.sent.length <;>
    simp [Snapshot.createSnapshot, World.request, Client.send_of_ok, Client.send_of_fault, first,
      SubVolume.purgeVolume, Snapshot.deleteSnapshot, newSnapshot]

theorem createCloneFromSnapshot_eq :
    s.createCloneFromSnapshot snap w =
      ((chain (snapshotSteps s snap) w).1,
        if w.fault w.sent.length = none then
          compensate ([Request.purgeVolume s.volID].map World.request)
            (chain (snapshotSteps s snap) w).1 (chain (snapshotSteps s snap) w).2
        else (chain (snapshotSteps s snap) w).2) := by
  simp only [SubVolume.createCloneFromSnapshot, snapshotSteps, chain_cons]
  cases first : w.fault w.sent.length <;>
    simp [Snapshot.cloneSnapshot, World.request, Client.send_of_ok, Client.send_of_fault, first,
      SubVolume.purgeVolume, newSnapshot]

theorem createCloneFromSubvolume_requests :
    ∃ l, (∀ r ∈ l, r ∈ subvolumeRequests s parent ++ [.purgeVolume s.volID, .deleteSnapshot parent.volID s.volID]) ∧
      (s.createCloneFromSubvolume parent w).2 = w.sendAll Request.apply l := by
  rw [createCloneFromSubvolume_eq, subvolumeSteps_eq]
  exact compensated_within s w [.createSnapshot parent.volID s.volID,
    .cloneSnapshot parent.volID s.volID s.volID] [.expandVolume s.volID s.size,
    .deleteSnapshot parent.volID s.volID] [.purgeVolume s.volID, .deleteSnapshot parent.volID s.volID]

theorem createCloneFromSnapshot_requests :
    ∃ l, (∀ r ∈ l, r ∈ snapshotRequests s snap ++ [.purgeVolume s.volID]) ∧
      (s.createCloneFromSnapshot snap w).2 = w.sendAll Request.apply l := by
  rw [createCloneFromSnapshot_eq, snapshotSteps_eq]
  exact compensated_within s w [.cloneSnapshot snap.subVolume.volID snap.snapshotID s.volID]
    [.expandVolume s.volID s.size] [.purgeVolume s.volID]

section Footprint
variable {sv p n : String}

theorem subvolume_requests_keep (other : sv ≠ s.volID) (otherSnap : (p, n) ≠ (parent.volID, s.volID)) :
    ∀ r ∈ subvolumeRequests s parent ++ [.purgeVolume s.volID, .deleteSnapshot parent.volID s.volID],
      ∀ c : Cluster, ((r.apply c).subvolumes sv, (r.apply c).snapshots p n) = (c.subvolumes sv, c.snapshots p n) := by
  intro r mem c
  simp only [subvolumeRequests, List.mem_append, List.mem_cons, List.not_mem_nil, or_false] at mem
  rcases mem with (rfl | rfl | rfl | rfl | rfl | rfl) | rfl | rfl <;>
    simp only [Request.apply, Function.update_apply] <;> (repeat' split) <;> simp_all

theorem snapshot_requests_keep (other : sv ≠ s.volID) :
    ∀ r ∈ snapshotRequests s snap ++ [.purgeVolume s.volID],
      ∀ c : Cluster, ((r.apply c).subvolumes sv, (r.apply c).snapshots) = (c.subvolumes sv, c.snapshots) := by
  intro r mem c
  simp only [snapshotRequests, List.mem_append, List.mem_cons, List.not_mem_nil, or_false] at mem
  rcases mem with (rfl | rfl | rfl | rfl) | rfl <;>
    simp only [Request.apply, Function.update_apply] <;> (repeat' split) <;> simp_all

/-- A clone changes no subvolume but its target and no snapshot but the intermediate one,
`<parent>/<target>`, and `CreateCloneFromSnapshot` changes no snapshot at all. -/
theorem clone_footprint (sv p n : String) (other : sv ≠ s.volID)
    (otherSnap : (p, n) ≠ (parent.volID, s.volID)) :
    (s.createCloneFromSubvolume parent w).2.state.subvolumes sv = w.state.subvolumes sv ∧
      (s.createCloneFromSubvolume parent w).2.state.snapshots p n = w.state.snapshots p n ∧
      (s.createCloneFromSnapshot snap w).2.state.subvolumes sv = w.state.subvolumes sv ∧
      (s.createCloneFromSnapshot snap w).2.state.snapshots = w.state.snapshots := by
  obtain ⟨l, inside, sent⟩ := createCloneFromSubvolume_requests s parent w
  obtain ⟨l', inside', sent'⟩ := createCloneFromSnapshot_requests s snap w
  have fromSubvolume : ((w.sendAll Request.apply l).state.subvolumes sv,
      (w.sendAll Request.apply l).state.snapshots p n) = (w.state.subvolumes sv, w.state.snapshots p n) :=
    Client.sendAll_preserves (fun c : Cluster => (c.subvolumes sv, c.snapshots p n)) fun r mem =>
      subvolume_requests_keep s parent other otherSnap r (inside r mem)
  have fromSnapshot : ((w.sendAll Request.apply l').state.subvolumes sv,
      (w.sendAll Request.apply l').state.snapshots) = (w.state.subvolumes sv, w.state.snapshots) :=
    Client.sendAll_preserves (fun c : Cluster => (c.subvolumes sv, c.snapshots)) fun r mem =>
      snapshot_requests_keep s snap other r (inside' r mem)
  simp only [Prod.mk.injEq] at fromSubvolume fromSnapshot
  rw [sent, sent']
  exact ⟨fromSubvolume.1, fromSubvolume.2, fromSnapshot.1, fromSnapshot.2⟩

/-- Cloning `pvc-0` into `pvc-1` leaves `pvc-0` and its other snapshots alone. -/
theorem clone_leaves_parent :
    let w : World := ⟨⟨fun _ => some 5, fun _ _ => true, fun _ => ⟨cloneFailed, ⟨"", "", ""⟩, none⟩⟩, [],
      fun n => if n = 3 then some (.sentinel "EIO") else none⟩
    let s : SubVolume := ⟨"pvc-1", 10⟩
    (s.createCloneFromSubvolume ⟨"pvc-0", 5⟩ w).2.state.subvolumes "pvc-0" = w.state.subvolumes "pvc-0" ∧
      (s.createCloneFromSubvolume ⟨"pvc-0", 5⟩ w).2.state.snapshots "pvc-0" "snap-0" =
        w.state.snapshots "pvc-0" "snap-0" ∧
      (s.createCloneFromSnapshot ⟨"snap-0", ⟨"pvc-0", 5⟩⟩ w).2.state.subvolumes "pvc-0" =
        w.state.subvolumes "pvc-0" ∧
      (s.createCloneFromSnapshot ⟨"snap-0", ⟨"pvc-0", 5⟩⟩ w).2.state.snapshots = w.state.snapshots :=
  clone_footprint _ _ _ _ "pvc-0" "pvc-0" "snap-0" (by decide) (by decide)

end Footprint

/-- A cluster with one subvolume `pvc-0` of size 5 whose clones report `state`. -/
def reportingCluster (state : CloneState) : Cluster :=
  ⟨fun v => if v = "pvc-0" then some 5 else none, fun _ _ => false,
    fun _ => ⟨state, ⟨"", "", ""⟩, none⟩⟩

/-- A clone the cluster reports as `canceled` reads as complete: both orchestrations resize
the target, `CreateCloneFromSubvolume` deletes the snapshot, and both return `nil`. -/
theorem canceled_clone_completes :
    let cs : CephFSCloneState := ⟨⟨"canceled"⟩, ⟨"", "", ""⟩, "", ""⟩
    let w : World := ⟨reportingCluster ⟨"canceled"⟩, [], fun _ => none⟩
    let fromSubvolume := (⟨"pvc-1", 10⟩ : SubVolume).createCloneFromSubvolume ⟨"pvc-0", 5⟩ w
    let fromSnapshot := (⟨"pvc-1", 10⟩ : SubVolume).createCloneFromSnapshot ⟨"snap-0", ⟨"pvc-0", 5⟩⟩ w
    cs.toError = none ∧ specifiedOutcome cs.state = .terminal ∧
      fromSubvolume.1 = none ∧
      fromSubvolume.2.sent = [.createSnapshot "pvc-0" "pvc-1", .cloneSnapshot "pvc-0" "pvc-1" "pvc-1",
        .getFSAdmin, .cloneStatus "pvc-1", .expandVolume "pvc-1" 10, .deleteSnapshot "pvc-0" "pvc-1"] ∧
      fromSnapshot.1 = none ∧
      fromSnapshot.2.sent = [.cloneSnapshot "pvc-0" "snap-0" "pvc-1", .getFSAdmin,
        .cloneStatus "pvc-1", .expandVolume "pvc-1" 10] := by
  decide

end CephCsi.CephFS
