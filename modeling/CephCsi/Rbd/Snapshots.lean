import CephCsi.Rbd.Group
import Mathlib.Data.Nat.Digits

/-! `CreateSnapshots` makes a group snapshot, asks which image snapshots it holds, and makes for
each a snapshot object from the member whose image it is. Two deferred functions run on return:
the one registered last `Destroy`s every entry of the slice when the call fails, then the other
removes the group snapshot. -/

namespace CephCsi.Rbd

/-- `fmt.Sprintf("%s-snap-%d", group, i)`. -/
def snapName (group : String) (i : Nat) : String := group ++ "-snap-" ++ toString i

/-- The inner loop of lines 389–411 for the image snapshot `snap` at index `i`: ask each member
for its image name until one is the snapshot's, and make a snapshot object from that member. -/
def materialize (group : String) (i : Nat) (snap : GroupSnap) :
    List Volume → World → (Option Snapshot × Option Error) × World
  | [], w => ((none, none), w)
  | volume :: rest, w =>
    match w.request (.volumeGetName volume.handle) with
    | (some err, w) => ((none, some (.wrap "failed to get name for volume %q: %w" [volume.name] err)), w)
    | (none, w) =>
      if volume.name ≠ snap.name then materialize group i snap rest w
      else
        let s : Snapshot := ⟨w.state.nextHandle, volume.handle, snapName group i, snap.snapID⟩
        match w.request (.newSnapshotByID volume.handle s.requestName s.snapID s.handle) with
        | (some err, w) =>
          ((none, some (.wrap "failed to create snapshot for image %q with snapshot id %d: %w"
            [snap.name, toString snap.snapID] err)), w)
        | (none, w) => ((some s, none), w)

/-- The loop of lines 388–414 from the image snapshot at index `i`: `snapshots[i]` is set
when its inner loop ends without an error. -/
def materializeAll (group : String) (volumes : List Volume) :
    Nat → List GroupSnap → List (Option Snapshot) → World →
      (List (Option Snapshot) × Option Error) × World
  | _, [], snapshots, w => ((snapshots, none), w)
  | i, snap :: rest, snapshots, w =>
    match materialize group i snap volumes w with
    | ((_, some err), w) => ((snapshots, some err), w)
    | ((entry, none), w) => materializeAll group volumes (i + 1) rest (snapshots.set i entry) w

/-- The function deferred at lines 373–382, once `err` is set: `Destroy` every entry of
the slice in order. Go panics on the first `nil` entry; the model records that call as
`snapshotDestroy none` and goes on, so what follows it is the model's only. -/
def destroySnapshots (snapshots : List (Option Snapshot)) (w : World) : World :=
  snapshots.foldl (fun w s => w.note (.snapshotDestroy (s.map Snapshot.handle))) w

/-- Lines 366–416: read the image snapshots of the group snapshot and make a snapshot
object of each. A nil slice is `[]`. -/
def VolumeGroup.collectSnapshots (vg : VolumeGroup) (group name : String) (w : World) :
    (List (Option Snapshot) × Option Error) × World :=
  match w.request (.groupSnapGetInfo group name) with
  | (some err, w) =>
    (([], some (.wrap "failed to get info for volume group snapshot %q: %w" [vg.id ++ "@" ++ name] err)), w)
  | (none, w) =>
    let info := w.state.groupSnapInfo group name
    match materializeAll group vg.volumes 0 info (List.replicate info.length none) w with
    | ((snapshots, some err), w) => (([], some err), destroySnapshots snapshots w)
    | ((snapshots, none), w) => ((snapshots, none), w)

/-- Lines 358–416: `collectSnapshots` with the removal of the group snapshot deferred; the
removal's error is only logged. -/
def VolumeGroup.snapshotGroup (vg : VolumeGroup) (group name : String) (w : World) :
    (List (Option Snapshot) × Option Error) × World :=
  let (r, w) := vg.collectSnapshots group name w
  (r, (w.request (.groupSnapRemove group name)).2)

/-- `CreateSnapshots`: creating a group snapshot that exists is not an error. -/
def VolumeGroup.createSnapshots (vg : VolumeGroup) (name : String) (w : World) :
    (List (Option Snapshot) × Option Error) × World :=
  match w.request .getName with
  | (some err, w) => (([], some err), w)
  | (none, w) =>
    let group := vg.name
    match w.request .getIOContext with
    | (some err, w) => (([], some err), w)
    | (none, w) =>
      match w.request (.groupSnapCreate group name) with
      | (some err, w) =>
        if err.is rbdErrExist then vg.snapshotGroup group name w
        else (([], some (.wrap "failed to create volume group snapshot %q: %w" [name] err)), w)
      | (none, w) => vg.snapshotGroup group name w

/-! ## The loop when nothing fails -/

/-- The snapshot made for the image snapshot at index `i`, from the first member of its image. -/
def plannedEntry (group : String) (volumes : List Volume) (i : Nat) (snap : GroupSnap)
    (handle : Nat) : Option Snapshot :=
  (volumes.find? (·.name = snap.name)).map fun v => ⟨handle, v.handle, snapName group i, snap.snapID⟩

def handleAfter (entry : Option Snapshot) (handle : Nat) : Nat :=
  if entry.isSome then handle + 1 else handle

/-- What the inner loop sends: `GetName` of each member up to the first whose image is the
snapshot's, then `NewSnapshotByID` from that member. -/
def materializeRequests (group : String) (i : Nat) (snap : GroupSnap) (handle : Nat) :
    List Volume → List Request
  | [] => []
  | v :: rest => .volumeGetName v.handle ::
    if v.name ≠ snap.name then materializeRequests group i snap handle rest
    else [.newSnapshotByID v.handle (snapName group i) snap.snapID handle]

/-- What the loop of lines 388–414 sends when no call fails, from index `i`. -/
def plannedRequests (group : String) (volumes : List Volume) :
    Nat → Nat → List GroupSnap → List Request
  | _, _, [] => []
  | i, handle, snap :: rest =>
    materializeRequests group i snap handle volumes ++
      plannedRequests group volumes (i + 1) (handleAfter (plannedEntry group volumes i snap handle) handle) rest

/-- The slice the loop fills when no call fails, from index `i`. -/
def plannedSnapshots (group : String) (volumes : List Volume) :
    Nat → Nat → List GroupSnap → List (Option Snapshot)
  | _, _, [] => []
  | i, handle, snap :: rest =>
    let entry := plannedEntry group volumes i snap handle
    entry :: plannedSnapshots group volumes (i + 1) (handleAfter entry handle) rest

/-- The request name a `NewSnapshotByID` call asks for. -/
def Request.snapshotName : Request → Option String
  | .newSnapshotByID _ name _ _ => some name
  | _ => none

def decimalValue (acc : Nat) (digits : List Char) : Nat :=
  digits.foldl (fun n c => 10 * n + (c.toNat - '0'.toNat)) acc

theorem digitChar_value : ∀ d < 10, (Nat.digitChar d).toNat - '0'.toNat = d := by decide

theorem decimalValue_toDigitsCore (fuel n : Nat) (ds : List Char) (enough : n < fuel) :
    decimalValue 0 (Nat.toDigitsCore 10 fuel n ds) = decimalValue n ds := by
  induction fuel generalizing n ds with
  | zero => omega
  | succ fuel ih =>
    have digit := digitChar_value (n % 10) (Nat.mod_lt _ (by omega))
    simp only [Nat.toDigitsCore]
    split
    · simp only [decimalValue, List.foldl_cons, digit]
      congr 1
      omega
    · rw [ih _ _ (by omega)]
      simp only [decimalValue, List.foldl_cons, digit, Nat.div_add_mod]

theorem toString_injective {m n : Nat} (same : toString m = toString n) : m = n := by
  have digits : Nat.toDigits 10 m = Nat.toDigits 10 n := congrArg String.data same
  have value (k : Nat) : decimalValue 0 (Nat.toDigits 10 k) = k :=
    decimalValue_toDigitsCore _ _ _ (Nat.lt_succ_self k)
  rw [← value m, ← value n, digits]

theorem snapName_inj {group : String} {i j : Nat} : snapName group i = snapName group j ↔ i = j := by
  refine ⟨fun same => toString_injective (String.ext ?_), fun same => same ▸ rfl⟩
  exact List.append_cancel_left (congrArg String.data same)

/-! ## The inner loop -/

section Loops
variable (group : String) (vs : List Volume)

@[simp] theorem plannedEntry_nil (i : Nat) (snap : GroupSnap) (handle : Nat) :
    plannedEntry group [] i snap handle = none := rfl

theorem plannedEntry_cons (v : Volume) (i : Nat) (snap : GroupSnap) (handle : Nat) :
    plannedEntry group (v :: vs) i snap handle =
      if v.name ≠ snap.name then plannedEntry group vs i snap handle
      else some ⟨handle, v.handle, snapName group i, snap.snapID⟩ := by
  by_cases same : v.name = snap.name <;> simp [plannedEntry, same]

/-- The inner loop sends a prefix of `materializeRequests`, and all of them when it succeeds. -/
theorem materialize_spec (i : Nat) (snap : GroupSnap) (w : World) :
    let r := materialize group i snap vs w
    let h := w.state.nextHandle
    ∃ l, l <+: materializeRequests group i snap h vs ∧ r.2 = w.sendAll Request.apply l ∧
      (r.1.2 = none → l = materializeRequests group i snap h vs ∧ w.Succeeds l.length ∧
        r.1.1 = plannedEntry group vs i snap h ∧ r.2.state.nextHandle = handleAfter r.1.1 h) := by
  induction vs generalizing w with
  | nil => exact ⟨[], List.prefix_refl _, rfl, fun _ => ⟨rfl, fun _ h => absurd h (Nat.not_lt_zero _), rfl, rfl⟩⟩
  | cons v rest ih =>
    cases first : w.fault w.sent.length with
    | some err =>
      refine ⟨[.volumeGetName v.handle], ⟨_, rfl⟩, ?_, ?_⟩ <;>
        simp [materialize, World.request, Client.send, first]
    | none =>
      have named : (w.send Request.apply (.volumeGetName v.handle)).2.state = w.state := by
        simp [Client.send, first, Request.apply]
      by_cases other : v.name ≠ snap.name
      · obtain ⟨l, pre, sent, ok⟩ := ih (w.send Request.apply (.volumeGetName v.handle)).2
        rw [named] at pre ok
        refine ⟨.volumeGetName v.handle :: l, ?_, ?_, fun done => ?_⟩
        · simpa [materializeRequests, other] using pre
        · simpa [materialize, World.request, Client.send, first, other] using sent
        · have done' : (materialize group i snap rest (w.send Request.apply (.volumeGetName v.handle)).2).1.2 = none := by
            simpa [materialize, World.request, Client.send, first, other] using done
          obtain ⟨rfl, succeeds, entry, handle⟩ := ok done'
          refine ⟨by simp [materializeRequests, other], Client.succeeds_cons first succeeds, ?_, ?_⟩
          · simpa [materialize, World.request, Client.send, first, other, plannedEntry_cons] using entry
          · simpa [materialize, World.request, Client.send, first, other] using handle
      · simp only [ne_eq, not_not] at other
        cases second : w.fault (w.sent.length + 1) with
        | some err =>
          refine ⟨[.volumeGetName v.handle, .newSnapshotByID v.handle (snapName group i) snap.snapID
            w.state.nextHandle], by simp [materializeRequests, other], ?_, ?_⟩ <;>
            simp [materialize, World.request, Client.send, first, second, other, Request.apply]
        | none =>
          refine ⟨materializeRequests group i snap w.state.nextHandle (v :: rest), List.prefix_refl _,
            ?_, fun _ => ⟨rfl, ?_, ?_, ?_⟩⟩
          · simp [materialize, materializeRequests, World.request, Client.send, first, second, other,
              Request.apply]
          · intro j hj
            simp only [materializeRequests, other, ne_eq, not_true_eq_false, if_false, List.length_cons,
              List.length_singleton] at hj
            match j, hj with
            | 0, _ => exact first
            | 1, _ => exact second
          · simp [materialize, World.request, Client.send, first, second, other, Request.apply,
              plannedEntry_cons]
          · simp [materialize, World.request, Client.send, first, second, other, Request.apply,
              handleAfter]

/-- The loop sends a prefix of the planned requests. On an error its slice holds the planned
snapshots up to the failing image snapshot and `nil` from it on; otherwise all of them. -/
theorem materializeAll_spec (info : List GroupSnap) (done : List (Option Snapshot)) (w : World) :
    let r := materializeAll group vs done.length info (done ++ List.replicate info.length none) w
    let planned := plannedSnapshots group vs done.length w.state.nextHandle info
    ∃ l, l <+: plannedRequests group vs done.length w.state.nextHandle info ∧
      r.2 = w.sendAll Request.apply l ∧
      (r.1.2 ≠ none → ∃ k < info.length,
        r.1.1 = done ++ planned.take k ++ List.replicate (info.length - k) none) ∧
      (r.1.2 = none → l = plannedRequests group vs done.length w.state.nextHandle info ∧
        w.Succeeds l.length ∧ r.1.1 = done ++ planned) := by
  induction info generalizing done w with
  | nil =>
    exact ⟨[], List.prefix_refl _, rfl, fun failed => absurd rfl failed,
      fun _ => ⟨rfl, fun _ h => absurd h (Nat.not_lt_zero _), by simp [materializeAll, plannedSnapshots]⟩⟩
  | cons snap rest ih =>
    obtain ⟨l, pre, sent, ok⟩ := materialize_spec group vs done.length snap w
    rcases hm : materialize group done.length snap vs w with ⟨⟨entry, err⟩, w₁⟩
    rw [hm] at sent ok
    cases err with
    | some err =>
      have stop : materializeAll group vs done.length (snap :: rest)
          (done ++ List.replicate (snap :: rest).length none) w =
          ((done ++ List.replicate (snap :: rest).length none, some err), w₁) := by
        simp [materializeAll, hm]
      simp only [stop]
      exact ⟨l, pre.trans (List.prefix_append _ _), sent,
        fun _ => ⟨0, Nat.succ_pos _, by simp only [List.take_zero, List.append_nil, Nat.sub_zero]⟩, nofun⟩
    | none =>
      obtain ⟨full, succeeds, planned, handle⟩ := ok rfl
      simp only at sent planned handle
      subst planned
      have next : materializeAll group vs done.length (snap :: rest)
          (done ++ List.replicate (snap :: rest).length none) w =
          materializeAll group vs (done.length + 1) rest
            (done ++ [plannedEntry group vs done.length snap w.state.nextHandle] ++
              List.replicate rest.length none) w₁ := by
        simp [materializeAll, hm, List.set_append_right, List.replicate_succ]
      obtain ⟨l', pre', sent', failed', ok'⟩ :=
        ih (done ++ [plannedEntry group vs done.length snap w.state.nextHandle]) w₁
      simp only [List.length_append, List.length_singleton, handle] at pre' sent' failed' ok'
      simp only [next, plannedRequests, plannedSnapshots]
      refine ⟨l ++ l', by rw [full]; exact (List.prefix_append_right_inj _).mpr pre', by
        rw [sent', sent, Client.sendAll_append], fun failed => ?_, fun finished => ?_⟩
      · obtain ⟨k, lt, slice⟩ := failed' failed
        exact ⟨k + 1, Nat.succ_lt_succ lt, by
          rw [slice]; simp only [List.take_succ_cons, List.length_cons, Nat.add_sub_add_right, List.append_assoc,
            List.singleton_append, List.cons_append, List.nil_append]⟩
      · obtain ⟨rfl, succeeds', slice⟩ := ok' finished
        refine ⟨by rw [full], ?_, by rw [slice]; simp⟩
        rw [sent] at succeeds'
        simpa only [List.length_append, full] using Client.succeeds_append succeeds succeeds'

theorem materializeRequests_names (i : Nat) (snap : GroupSnap) (handle : Nat) :
    (materializeRequests group i snap handle vs).filterMap Request.snapshotName =
      ((vs.find? (·.name = snap.name)).map fun _ => snapName group i).toList := by
  induction vs with
  | nil => rfl
  | cons v vs ih =>
    by_cases other : v.name ≠ snap.name
    · simpa [materializeRequests, other, Request.snapshotName] using ih
    · simp_all [materializeRequests, Request.snapshotName]

theorem plannedRequests_names (i handle : Nat) (info : List GroupSnap) :
    let names := (plannedRequests group vs i handle info).filterMap Request.snapshotName
    names.Nodup ∧ ∀ n ∈ names, ∃ j, i ≤ j ∧ j < i + info.length ∧ n = snapName group j := by
  induction info generalizing i handle with
  | nil => simp [plannedRequests]
  | cons snap rest ih =>
    obtain ⟨nodup, named⟩ := ih (i + 1) (handleAfter (plannedEntry group vs i snap handle) handle)
    have own : ∀ n ∈ (materializeRequests group i snap handle vs).filterMap Request.snapshotName,
        n = snapName group i := by
      rw [materializeRequests_names]
      intro n
      cases vs.find? (·.name = snap.name) <;> simp
    simp only [plannedRequests, List.filterMap_append]
    refine ⟨List.nodup_append.mpr ⟨?_, nodup, fun n mine later => ?_⟩, fun n mem => ?_⟩
    · rw [materializeRequests_names]
      cases vs.find? (·.name = snap.name) <;> simp
    · obtain ⟨j, lt, -, same⟩ := named n later
      rw [own n mine, snapName_inj] at same
      omega
    · rcases List.mem_append.mp mem with mine | later
      · exact ⟨i, le_refl _, by simp, own n mine⟩
      · obtain ⟨j, lt, le, rfl⟩ := named n later
        exact ⟨j, by omega, by simp; omega, rfl⟩

end Loops

/-! ## How a call ends -/

/-- `GetName` and `GetIOContext` succeed and `GroupSnapCreate` makes the group snapshot or
finds it there: from here on the removal of the group snapshot is deferred. -/
def GroupSnapCreated (w : World) : Prop :=
  w.fault w.sent.length = none ∧ w.fault (w.sent.length + 1) = none ∧
    (w.fault (w.sent.length + 2)).all (·.is rbdErrExist) = true

instance (w : World) : Decidable (GroupSnapCreated w) := inferInstanceAs (Decidable (_ ∧ _ ∧ _))

/-- The calls `CreateSnapshots` makes before it reads the group snapshot. -/
def openingRequests (vg : VolumeGroup) (name : String) : List Request :=
  [.getName, .getIOContext, .groupSnapCreate vg.name name]

section Calls
variable (vg : VolumeGroup) (name : String) (w : World)

theorem createSnapshots_of_created (created : GroupSnapCreated w) :
    vg.createSnapshots name w =
      vg.snapshotGroup vg.name name (w.sendAll Request.apply (openingRequests vg name)) := by
  obtain ⟨first, second, third⟩ := created
  cases create : w.fault (w.sent.length + 2) with
  | none => simp [VolumeGroup.createSnapshots, openingRequests, World.request, Client.send, first, second, create]
  | some err =>
    simp only [create, Option.all_some] at third
    simp [VolumeGroup.createSnapshots, openingRequests, World.request, Client.send, first, second, create, third]

theorem createSnapshots_of_not_created (failed : ¬ GroupSnapCreated w) :
    ∃ l err, l <+: openingRequests vg name ∧
      vg.createSnapshots name w = (([], some err), w.sendAll Request.apply l) := by
  simp only [GroupSnapCreated, not_and_or] at failed
  cases first : w.fault w.sent.length with
  | some err => exact ⟨[.getName], err, ⟨_, rfl⟩, by simp [VolumeGroup.createSnapshots, World.request, Client.send, first]⟩
  | none =>
    cases second : w.fault (w.sent.length + 1) with
    | some err => exact ⟨[.getName, .getIOContext], err, ⟨_, rfl⟩,
        by simp [VolumeGroup.createSnapshots, World.request, Client.send, first, second]⟩
    | none =>
      cases create : w.fault (w.sent.length + 2) with
      | none => simp [first, second, create] at failed
      | some err =>
        have other : err.is rbdErrExist = false := by simpa [first, second, create] using failed
        exact ⟨openingRequests vg name, .wrap "failed to create volume group snapshot %q: %w" [name] err,
          List.prefix_refl _,
          by simp [VolumeGroup.createSnapshots, openingRequests, World.request, Client.send, first, second, create, other]⟩

theorem opening_keeps :
    let opened := w.sendAll Request.apply (openingRequests vg name ++ [.groupSnapGetInfo vg.name name])
    opened.state.nextHandle = w.state.nextHandle ∧
      opened.state.groupSnapInfo = w.state.groupSnapInfo :=
  Prod.mk.inj <| Client.sendAll_preserves (fun c : Cluster => (c.nextHandle, c.groupSnapInfo))
    fun r mem c => by
      simp only [openingRequests, List.cons_append, List.nil_append, List.mem_cons,
        List.not_mem_nil, or_false] at mem
      rcases mem with rfl | rfl | rfl | rfl <;> rfl

theorem snapshotGroup_of_info_failure (group : String) (failed : w.fault w.sent.length ≠ none) :
    (vg.snapshotGroup group name w).1.1 = [] ∧ (vg.snapshotGroup group name w).1.2 ≠ none ∧
      (vg.snapshotGroup group name w).2 =
        w.sendAll Request.apply [.groupSnapGetInfo group name, .groupSnapRemove group name] := by
  obtain ⟨err, fault⟩ := Option.ne_none_iff_exists'.mp failed
  simp [VolumeGroup.snapshotGroup, VolumeGroup.collectSnapshots, World.request,
    Client.send_of_fault fault]

theorem snapshotGroup_of_info (group : String) (gotInfo : w.fault w.sent.length = none) :
    let opened := w.sendAll Request.apply [.groupSnapGetInfo group name]
    let info := w.state.groupSnapInfo group name
    vg.snapshotGroup group name w =
      match materializeAll group vg.volumes 0 info (List.replicate info.length none) opened with
      | ((snapshots, some err), w) =>
        (([], some err), (destroySnapshots snapshots w).sendAll Request.apply [.groupSnapRemove group name])
      | ((snapshots, none), w) =>
        ((snapshots, none), w.sendAll Request.apply [.groupSnapRemove group name]) := by
  have unchanged : (Request.groupSnapGetInfo group name).apply w.state = w.state := rfl
  simp only [VolumeGroup.snapshotGroup, VolumeGroup.collectSnapshots, World.request,
    Client.send_of_ok gotInfo, Client.sendAll_cons, Client.sendAll_nil, unchanged]
  generalize materializeAll group vg.volumes 0 _ _ _ = out
  rcases out with ⟨⟨_, _ | _⟩, _⟩ <;> rfl

/-- The four ways a call ends: before the group snapshot exists, on reading it, in the loop,
or with every call of the loop successful. -/
theorem createSnapshots_cases :
    let r := vg.createSnapshots name w
    let info := w.state.groupSnapInfo vg.name name
    let handle := w.state.nextHandle
    let opened := w.sendAll Request.apply (openingRequests vg name ++ [.groupSnapGetInfo vg.name name])
    let remove : List Request := [.groupSnapRemove vg.name name]
    (¬ GroupSnapCreated w ∧ r.1.1 = [] ∧ r.1.2 ≠ none ∧
        ∃ l, l <+: openingRequests vg name ∧ r.2 = w.sendAll Request.apply l) ∨
    (GroupSnapCreated w ∧ w.fault (w.sent.length + 3) ≠ none ∧ r.1.1 = [] ∧ r.1.2 ≠ none ∧
        r.2 = w.sendAll Request.apply (openingRequests vg name ++ [.groupSnapGetInfo vg.name name] ++ remove)) ∨
    (GroupSnapCreated w ∧ w.fault (w.sent.length + 3) = none ∧ r.1.1 = [] ∧ r.1.2 ≠ none ∧
        ∃ l, l <+: plannedRequests vg.name vg.volumes 0 handle info ∧ ∃ k < info.length,
          r.2 = (destroySnapshots ((plannedSnapshots vg.name vg.volumes 0 handle info).take k ++
            List.replicate (info.length - k) none) (opened.sendAll Request.apply l)).sendAll Request.apply remove) ∨
    (GroupSnapCreated w ∧ w.fault (w.sent.length + 3) = none ∧
        r.1 = (plannedSnapshots vg.name vg.volumes 0 handle info, none) ∧
        opened.Succeeds (plannedRequests vg.name vg.volumes 0 handle info).length ∧
        r.2 = (opened.sendAll Request.apply (plannedRequests vg.name vg.volumes 0 handle info)).sendAll
          Request.apply remove) := by
  by_cases created : GroupSnapCreated w
  · simp only [createSnapshots_of_created vg name w created, Client.sendAll_append]
    obtain ⟨keepsHandle, keepsInfo⟩ := opening_keeps vg name w
    rw [Client.sendAll_append] at keepsHandle keepsInfo
    cases gotInfo : w.fault (w.sent.length + 3) with
    | some err =>
      obtain ⟨result, failed, sent⟩ := snapshotGroup_of_info_failure vg name
        (w.sendAll Request.apply (openingRequests vg name)) vg.name (by simp [openingRequests, gotInfo])
      exact .inr <| .inl ⟨created, by simp, result, failed, by rw [sent, ← Client.sendAll_append]; rfl⟩
    | none =>
      have getInfoOk : (w.sendAll Request.apply (openingRequests vg name)).fault
          (w.sendAll Request.apply (openingRequests vg name)).sent.length = none := by
        simp [openingRequests, gotInfo]
      have opened : (w.sendAll Request.apply (openingRequests vg name)).state.groupSnapInfo =
          w.state.groupSnapInfo := by
        simpa [Client.send_of_ok getInfoOk, Request.apply] using keepsInfo
      rw [snapshotGroup_of_info vg name _ vg.name getInfoOk]
      obtain ⟨l, pre, sent, failed, ok⟩ := materializeAll_spec vg.name vg.volumes
        (w.state.groupSnapInfo vg.name name) []
        ((w.sendAll Request.apply (openingRequests vg name)).sendAll Request.apply
          [.groupSnapGetInfo vg.name name])
      simp only [List.length_nil, List.nil_append, keepsHandle] at pre sent failed ok
      simp only [opened]
      split
      · rename_i snapshots err w' loop
        rw [loop] at sent failed ok
        obtain ⟨k, lt, slice⟩ := failed (by simp)
        simp only at sent slice
        exact .inr <| .inr <| .inl ⟨created, by simp, rfl, by simp, l, pre, k, lt, by rw [← slice, ← sent]⟩
      · rename_i snapshots w' loop
        rw [loop] at sent failed ok
        obtain ⟨rfl, succeeds, slice⟩ := ok rfl
        simp only at sent slice
        exact .inr <| .inr <| .inr ⟨created, by simp, by rw [slice], succeeds, by rw [← sent]⟩
  · obtain ⟨l, err, pre, ended⟩ := createSnapshots_of_not_created vg name w created
    simp only [ended]
    exact .inl ⟨created, by simp, by simp, l, pre, rfl⟩

end Calls

/-- The `Destroy` calls `destroySnapshots` makes, one per entry. -/
def destroyRequests (snapshots : List (Option Snapshot)) : List Request :=
  snapshots.map fun s => .snapshotDestroy (s.map Snapshot.handle)

@[simp] theorem destroySnapshots_sent (snapshots : List (Option Snapshot)) (w : World) :
    (destroySnapshots snapshots w).sent = w.sent ++ destroyRequests snapshots := by
  induction snapshots generalizing w <;> simp_all [destroySnapshots, destroyRequests, World.note]

@[simp] theorem destroyRequests_names (snapshots : List (Option Snapshot)) :
    (destroyRequests snapshots).filterMap Request.snapshotName = [] := by
  induction snapshots <;> simp_all [destroyRequests, Request.snapshotName]

theorem plannedRequests_calls (group : String) (vs : List Volume) (i handle : Nat)
    (info : List GroupSnap) (r : Request) (mem : r ∈ plannedRequests group vs i handle info) :
    (∃ v, r = .volumeGetName v) ∨ r.snapshotName.isSome := by
  induction info generalizing i handle with
  | nil => simp [plannedRequests] at mem
  | cons snap rest ih =>
    rcases List.mem_append.mp mem with inner | later
    · clear ih mem
      induction vs with
      | nil => simp [materializeRequests] at inner
      | cons v vs ihv =>
        by_cases other : v.name ≠ snap.name
        · rw [materializeRequests, if_pos other, List.mem_cons] at inner
          exact inner.elim (fun same => .inl ⟨_, same⟩) ihv
        · rw [materializeRequests, if_neg other, List.mem_cons, List.mem_singleton] at inner
          rcases inner with rfl | rfl
          · exact .inl ⟨_, rfl⟩
          · exact .inr rfl
    · exact ih _ _ later

/-! ## What a call returns and sends -/

section Outcome
variable (vg : VolumeGroup) (name : String) (w : World)

/-- The names one call asks `NewSnapshotByID` for are pairwise distinct, and each is the
group's name with the index of an image snapshot: none depends on `name`. -/
theorem createSnapshots_names :
    (((vg.createSnapshots name w).2.sent.drop w.sent.length).filterMap Request.snapshotName).Nodup ∧
      ∀ n ∈ ((vg.createSnapshots name w).2.sent.drop w.sent.length).filterMap Request.snapshotName,
        ∃ j < (w.state.groupSnapInfo vg.name name).length, n = snapName vg.name j := by
  have loop (l : List Request)
      (pre : l <+: plannedRequests vg.name vg.volumes 0 w.state.nextHandle (w.state.groupSnapInfo vg.name name)) :
      (l.filterMap Request.snapshotName).Nodup ∧ ∀ n ∈ l.filterMap Request.snapshotName,
        ∃ j < (w.state.groupSnapInfo vg.name name).length, n = snapName vg.name j := by
    obtain ⟨nodup, named⟩ := plannedRequests_names vg.name vg.volumes 0 w.state.nextHandle
      (w.state.groupSnapInfo vg.name name)
    have sub := (pre.filterMap Request.snapshotName).sublist
    refine ⟨nodup.sublist sub, fun n mem => ?_⟩
    obtain ⟨j, -, lt, rfl⟩ := named n (sub.subset mem)
    exact ⟨j, by omega, rfl⟩
  rcases createSnapshots_cases vg name w with ⟨-, -, -, l, pre, sent⟩ | ⟨-, -, -, -, sent⟩ |
    ⟨-, -, -, -, l, pre, k, -, sent⟩ | ⟨-, -, -, -, sent⟩
  · have noNames : l.filterMap Request.snapshotName = [] :=
      List.prefix_nil.mp (pre.filterMap Request.snapshotName)
    simp [sent, noNames]
  · simp [sent, openingRequests, Request.snapshotName]
  · have names : ((vg.createSnapshots name w).2.sent.drop w.sent.length).filterMap Request.snapshotName =
        l.filterMap Request.snapshotName := by
      simp only [sent, Client.sendAll_sent, destroySnapshots_sent, List.append_assoc, List.drop_left,
        List.filterMap_append, destroyRequests_names]
      simp [openingRequests, Request.snapshotName]
    simpa only [names] using loop l pre
  · have names : ((vg.createSnapshots name w).2.sent.drop w.sent.length).filterMap Request.snapshotName =
        (plannedRequests vg.name vg.volumes 0 w.state.nextHandle
          (w.state.groupSnapInfo vg.name name)).filterMap Request.snapshotName := by
      simp only [sent, Client.sendAll_sent, List.append_assoc, List.drop_left, List.filterMap_append]
      simp [openingRequests, Request.snapshotName]
    simpa only [names] using loop _ (List.prefix_refl _)

/-- Once the group snapshot has been made or found, the call's last request removes it and
no earlier one does; before that, no request removes a group snapshot. -/
theorem createSnapshots_removes_group_snap :
    (GroupSnapCreated w → ∃ pre, (vg.createSnapshots name w).2.sent.drop w.sent.length =
        pre ++ [.groupSnapRemove vg.name name] ∧ ∀ g n, Request.groupSnapRemove g n ∉ pre) ∧
      (¬ GroupSnapCreated w → ∀ g n,
        Request.groupSnapRemove g n ∉ (vg.createSnapshots name w).2.sent.drop w.sent.length) := by
  have loop (l : List Request) (i handle : Nat) (info : List GroupSnap)
      (pre : l <+: plannedRequests vg.name vg.volumes i handle info) (g n : String) :
      Request.groupSnapRemove g n ∉ l := fun mem => by
    rcases plannedRequests_calls _ _ _ _ _ _ (pre.subset mem) with ⟨v, v_eq⟩ | named
    · cases v_eq
    · simp [Request.snapshotName] at named
  rcases createSnapshots_cases vg name w with ⟨failed, -, -, l, pre, sent⟩ | ⟨created, -, -, -, sent⟩ |
    ⟨created, -, -, -, l, pre, k, -, sent⟩ | ⟨created, -, -, -, sent⟩
  · refine ⟨fun created => absurd created failed, fun _ g n mem => ?_⟩
    simp only [sent, Client.sendAll_sent, List.drop_left] at mem
    have := pre.subset mem
    simp [openingRequests] at this
  · refine ⟨fun _ => ⟨openingRequests vg name ++ [.groupSnapGetInfo vg.name name], ?_, ?_⟩,
      fun failed => absurd created failed⟩
    · simp [sent]
    · simp [openingRequests]
  · refine ⟨fun _ => ⟨openingRequests vg name ++ [.groupSnapGetInfo vg.name name] ++ l ++
      destroyRequests ((plannedSnapshots vg.name vg.volumes 0 w.state.nextHandle
        (w.state.groupSnapInfo vg.name name)).take k ++
        List.replicate ((w.state.groupSnapInfo vg.name name).length - k) none), ?_, fun g n mem => ?_⟩,
      fun failed => absurd created failed⟩
    · simp only [sent, Client.sendAll_sent, destroySnapshots_sent, List.append_assoc, List.drop_left,
        Client.sendAll_append]
    · simp only [destroyRequests, List.mem_append, List.mem_map] at mem
      rcases mem with ((opening | mine) | ⟨s, -, same⟩)
      · simp [openingRequests] at opening
      · exact loop l _ _ _ pre g n mine
      · cases same
  · refine ⟨fun _ => ⟨openingRequests vg name ++ [.groupSnapGetInfo vg.name name] ++
      plannedRequests vg.name vg.volumes 0 w.state.nextHandle (w.state.groupSnapInfo vg.name name),
      by simp [sent], fun g n mem => ?_⟩, fun failed => absurd created failed⟩
    simp only [List.mem_append] at mem
    rcases mem with (opening | mine)
    · simp [openingRequests] at opening
    · exact loop _ _ _ _ (List.prefix_refl _) g n mine

/-- When the loop fails, the cleanup `Destroy`s the whole slice in order, the snapshots made and
then a `nil` entry for the failing image snapshot, where Go panics, and in the model each after
it; then the group snapshot is removed. -/
theorem loop_failure_destroys_empty_entry (created : GroupSnapCreated w)
    (gotInfo : w.fault (w.sent.length + 3) = none) (failed : (vg.createSnapshots name w).1.2 ≠ none) :
    let info := w.state.groupSnapInfo vg.name name
    let planned := plannedSnapshots vg.name vg.volumes 0 w.state.nextHandle info
    Request.snapshotDestroy none ∈ (vg.createSnapshots name w).2.sent ∧
      ∃ k < info.length, ∃ l, l <+: plannedRequests vg.name vg.volumes 0 w.state.nextHandle info ∧
        (vg.createSnapshots name w).2.sent = w.sent ++ openingRequests vg name ++
          [.groupSnapGetInfo vg.name name] ++ l ++
          destroyRequests (planned.take k ++ List.replicate (info.length - k) none) ++
          [.groupSnapRemove vg.name name] := by
  rcases createSnapshots_cases vg name w with ⟨notCreated, -⟩ | ⟨-, infoFailed, -⟩ |
    ⟨-, -, -, -, l, pre, k, lt, sent⟩ | ⟨-, -, result, -⟩
  · exact absurd created notCreated
  · exact absurd gotInfo infoFailed
  · have slice : (vg.createSnapshots name w).2.sent = w.sent ++ openingRequests vg name ++
        [.groupSnapGetInfo vg.name name] ++ l ++
        destroyRequests ((plannedSnapshots vg.name vg.volumes 0 w.state.nextHandle
          (w.state.groupSnapInfo vg.name name)).take k ++
          List.replicate ((w.state.groupSnapInfo vg.name name).length - k) none) ++
        [.groupSnapRemove vg.name name] := by
      simp only [sent, Client.sendAll_sent, destroySnapshots_sent, Client.sendAll_append, List.append_assoc]
    refine ⟨?_, k, lt, l, pre, slice⟩
    rw [slice]
    simp only [destroyRequests, List.mem_append, List.mem_map, List.mem_replicate]
    exact .inl <| .inr ⟨none, .inr ⟨by omega, rfl⟩, rfl⟩
  · exact absurd (by rw [result]) failed

end Outcome

/-- A cluster whose group snapshots hold the image snapshots `info`. -/
def snapshotCluster (info : List GroupSnap) : Cluster where
  groupOf _ := ⟨"pool-1", "uuid-1", "group-1"⟩
  groups _ := KeySet.empty
  groupExists _ := true
  groupSnaps _ _ := false
  groupSnapInfo _ _ := info
  journal _ := KeySet.empty
  imageName _ := "img-1"
  nextHandle := 10
  connections := []

/-- A group of two members, on the images `img-1` and `img-2`. -/
def twoMemberGroup : VolumeGroup :=
  ⟨"g1", "group-1", "pool-1", some 1, [⟨2, "vol-1", "img-1"⟩, ⟨3, "vol-2", "img-2"⟩], []⟩

/-- Two image snapshots, the second's `NewSnapshotByID` failing: the cleanup `Destroy`s the
first snapshot and then the `nil` entry of the second. -/
theorem second_snapshot_failure_destroys_nil :
    let w : World := ⟨snapshotCluster [⟨"img-1", 1, 5⟩, ⟨"img-2", 1, 6⟩], [],
      fun n => if n = 8 then some (.sentinel "EIO") else none⟩
    GroupSnapCreated w ∧ w.fault (w.sent.length + 3) = none ∧
      (twoMemberGroup.createSnapshots "gs-1" w).1.2 ≠ none ∧
      Request.snapshotDestroy none ∈ (twoMemberGroup.createSnapshots "gs-1" w).2.sent ∧
      (twoMemberGroup.createSnapshots "gs-1" w).2.sent.drop 9 =
        [.snapshotDestroy (some 10), .snapshotDestroy none, .groupSnapRemove "group-1" "gs-1"] :=
  ⟨by decide, rfl, by decide,
    (loop_failure_destroys_empty_entry twoMemberGroup "gs-1" _ (by decide) rfl (by decide)).1, by decide⟩

/-- Two calls for different group snapshots of one group ask for the same snapshot name. -/
theorem group_snapshots_share_names :
    let w : World := ⟨snapshotCluster [⟨"img-1", 1, 5⟩], [], fun _ => none⟩
    let first := twoMemberGroup.createSnapshots "gs-a" w
    let second := twoMemberGroup.createSnapshots "gs-b" first.2
    first.1.2 = none ∧ second.1.2 = none ∧
      Request.newSnapshotByID 2 "group-1-snap-0" 5 10 ∈ first.2.sent ∧
      Request.newSnapshotByID 2 "group-1-snap-0" 5 11 ∈ second.2.sent.drop first.2.sent.length := by
  decide

end CephCsi.Rbd
