import CephCsi.Rbd.Ownership

namespace CephCsi.Rbd

/-! ## The footprint of a call -/

/-- A request that changes nothing on the cluster. -/
def Request.Lookup (r : Request) : Prop := ∀ c, r.apply c = c

/-- The requests a call sends besides lookups. -/
def GroupCall.Effect (vg : VolumeGroup) : GroupCall → Request → Prop
  | .addVolume vol, r =>
    r = .addToGroup vol vg.name ∨ ∃ pool uuid, r = .addVolumesMapping pool uuid vol.id
  | .removeVolume vol, r =>
    r = .removeFromGroup vol vg.name ∨ ∃ pool uuid, r = .removeVolumesMapping pool uuid vol.id
  | .createSnapshots _, r =>
    (∃ group name, r = .groupSnapCreate group name ∨ r = .groupSnapRemove group name) ∨
      ∃ volume name snapID handle, r = .newSnapshotByID volume name snapID handle
  | .destroy, r => r = .commonDestroy vg.conn
  | .listVolumes, _ | .toCSI, _ => False

@[simp] theorem csiVolumes_state (vs : List Volume) (done : List CsiVolume) (w : World) :
    (csiVolumes vs done w).2.state = w.state := by
  induction vs generalizing done w with
  | nil => rfl
  | cons v vs ih =>
    cases h : w.fault w.sent.length <;> simp [csiVolumes, World.request, Client.send, h, ih, Request.apply]

@[simp] theorem toCSI_state (vg : VolumeGroup) (w : World) : (vg.toCSI w).2.state = w.state := by
  have kept := csiVolumes_state vg.volumes [] w
  simp only [VolumeGroup.toCSI, VolumeGroup.listVolumes]
  rcases hc : csiVolumes vg.volumes [] w with ⟨⟨vols, _ | err⟩, w'⟩ <;> rw [hc] at kept <;>
    simp only at kept
  · cases h : w'.fault w'.sent.length <;> simp [World.request, Client.send, h, kept, Request.apply]
  · exact kept

@[simp] theorem destroySnapshots_state (snapshots : List (Option Snapshot)) (w : World) :
    (destroySnapshots snapshots w).state = w.state := by
  induction snapshots generalizing w <;> simp_all [destroySnapshots, World.note, Request.apply]

section Footprint
variable {α : Type} (f : Cluster → α)

theorem sendAll_keeps {c : GroupCall} {vg : VolumeGroup} {l rs : List Request} (pre : l <+: rs)
    (inside : ∀ r ∈ rs, r.Lookup ∨ c.Effect vg r) (keeps : ∀ r, c.Effect vg r → ∀ s, f (r.apply s) = f s)
    (w : World) : f (w.sendAll Request.apply l).state = f w.state :=
  Client.sendAll_preserves f fun r mem s =>
    (inside r (pre.subset mem)).elim (fun lookup => by rw [lookup]) (keeps r · s)

theorem openingRequests_inside (vg : VolumeGroup) (name : String) :
    ∀ r ∈ openingRequests vg name ++ [.groupSnapGetInfo vg.name name],
      r.Lookup ∨ (GroupCall.createSnapshots name).Effect vg r := by
  simp only [openingRequests, List.cons_append, List.nil_append, List.mem_cons, List.not_mem_nil, or_false]
  rintro r (rfl | rfl | rfl | rfl)
  all_goals first | exact .inl fun _ => rfl | exact .inr (.inl ⟨_, _, .inl rfl⟩)

theorem plannedRequests_inside (vg : VolumeGroup) (name group : String) (vs : List Volume) (i handle : Nat)
    (info : List GroupSnap) :
    ∀ r ∈ plannedRequests group vs i handle info, r.Lookup ∨ (GroupCall.createSnapshots name).Effect vg r := by
  intro r mem
  rcases plannedRequests_calls group vs i handle info r mem with ⟨v, rfl⟩ | named
  · exact .inl fun _ => rfl
  · cases r <;> simp [Request.snapshotName] at named
    exact .inr (.inr ⟨_, _, _, _, rfl⟩)

/-- A property of the cluster that every effect of a call keeps, the call keeps. -/
theorem GroupCall.run_keeps (c : GroupCall) (vg : VolumeGroup) (w : World)
    (keeps : ∀ r, c.Effect vg r → ∀ s, f (r.apply s) = f s) : f (c.run vg w).2.state = f w.state := by
  cases c with
  | addVolume vol =>
    obtain ⟨l, pre, sent, -⟩ := addVolume_spec vg vol w
    rw [GroupCall.run, sent]
    refine sendAll_keeps f pre ?_ keeps w
    simp only [addVolumeRequests, List.mem_cons, List.not_mem_nil, or_false]
    rintro r (rfl | rfl | rfl | rfl | rfl | rfl | rfl)
    all_goals first | exact .inl fun _ => rfl | exact .inr (.inl rfl) | exact .inr (.inr ⟨_, _, rfl⟩)
  | removeVolume vol =>
    obtain ⟨-, l, pre, sent, -⟩ := removeVolume_spec vg vol w
    rw [GroupCall.run, sent]
    refine sendAll_keeps f pre ?_ keeps w
    simp only [removeVolumeRequests, List.mem_cons, List.mem_append, List.mem_map, List.not_mem_nil,
      or_false]
    rintro r (rfl | rfl | ⟨v, -, rfl⟩ | rfl | rfl | rfl | rfl | rfl)
    all_goals first | exact .inl fun _ => rfl | exact .inr (.inl rfl) | exact .inr (.inr ⟨_, _, rfl⟩)
  | listVolumes => rfl
  | toCSI => simp [GroupCall.run]
  | createSnapshots name =>
    have opening := sendAll_keeps f (List.prefix_refl _) (openingRequests_inside vg name) keeps
    have removeInside : ∀ r ∈ [Request.groupSnapRemove vg.name name],
        r.Lookup ∨ (GroupCall.createSnapshots name).Effect vg r :=
      fun r mem => .inr (.inl ⟨vg.name, name, .inr (List.mem_singleton.mp mem)⟩)
    have remove := sendAll_keeps f (List.prefix_refl _) removeInside keeps
    have loop {l : List Request} (pre : l <+: plannedRequests vg.name vg.volumes 0 w.state.nextHandle
        (w.state.groupSnapInfo vg.name name)) :=
      sendAll_keeps f pre (plannedRequests_inside vg name _ _ _ _ _) keeps
    simp only [GroupCall.run]
    rcases createSnapshots_cases vg name w with ⟨-, -, -, l, pre, sent⟩ | ⟨-, -, -, -, sent⟩ |
      ⟨-, -, -, -, l, pre, k, -, sent⟩ | ⟨-, -, -, -, sent⟩ <;> rw [sent]
    · exact sendAll_keeps f (pre.trans (List.prefix_append _ _)) (openingRequests_inside vg name) keeps w
    · rw [Client.sendAll_append, remove, opening]
    · rw [remove, destroySnapshots_state, loop pre, opening]
    · rw [remove, loop (List.prefix_refl _), opening]
  | destroy =>
    simp only [GroupCall.run, VolumeGroup.destroy, VolumeGroup.commonDestroy]
    split_ifs <;> simp [World.note, keeps _ rfl]

end Footprint

theorem GroupCall.run_names (c : GroupCall) (vg : VolumeGroup) (w : World) :
    (c.run vg w).1.id = vg.id ∧ (c.run vg w).1.name = vg.name ∧ (c.run vg w).1.pool = vg.pool ∧
      (c.run vg w).1.conn = if c = .destroy then none else vg.conn := by
  cases c with
  | addVolume vol =>
    obtain ⟨-, -, -, after | after, -⟩ := addVolume_spec vg vol w <;> simp [GroupCall.run, after]
  | removeVolume vol =>
    obtain ⟨after | after, -⟩ := removeVolume_spec vg vol w <;> simp [GroupCall.run, after]
  | destroy =>
    simp only [GroupCall.run, VolumeGroup.destroy, VolumeGroup.commonDestroy]
    split_ifs <;> simp
  | listVolumes | toCSI | createSnapshots => simp [GroupCall.run]

/-! ## The three views -/

/-- The member list, the journal record and the rbd group agree on whether they hold `id`. -/
def VolumeGroup.AgreeOn (vg : VolumeGroup) (c : Cluster) (id : String) : Prop :=
  (id ∈ vg.memberIDs ↔ id ∈ vg.journalIDs c) ∧ (id ∈ vg.memberIDs ↔ id ∈ vg.imageIDs c)

instance (vg : VolumeGroup) (c : Cluster) (id : String) : Decidable (vg.AgreeOn c id) :=
  inferInstanceAs (Decidable (_ ∧ _))

/-- Whether the journal record and the rbd group hold `id`. -/
def VolumeGroup.viewsOf (vg : VolumeGroup) (id : String) (c : Cluster) : Bool × Bool :=
  (decide (id ∈ vg.journalIDs c), decide (id ∈ vg.imageIDs c))

/-- The ID of the volume whose `AddVolume` or `RemoveVolume` returned an error. -/
def GroupCall.failedMember (vg : VolumeGroup) (w : World) : GroupCall → Option String
  | .addVolume vol => if (vg.addVolume vol w).1.isSome then some vol.id else none
  | .removeVolume vol => if (vg.removeVolume vol w).1.isSome then some vol.id else none
  | _ => none

/-- The IDs of the volumes whose `AddVolume` or `RemoveVolume` failed over a run. -/
def failedMembers : List GroupCall → VolumeGroup → World → List String
  | [], _, _ => []
  | c :: cs, vg, w => (c.failedMember vg w).toList ++ failedMembers cs (c.run vg w).1 (c.run vg w).2

theorem VolumeGroup.agreeOn_of_kept {vg vg' : VolumeGroup} {c c' : Cluster} {id : String}
    (names : vg'.id = vg.id ∧ vg'.name = vg.name ∧ vg'.pool = vg.pool)
    (members : id ∈ vg'.memberIDs ↔ id ∈ vg.memberIDs) (views : vg.viewsOf id c' = vg.viewsOf id c)
    (agree : vg.AgreeOn c id) : vg'.AgreeOn c' id := by
  obtain ⟨sameId, sameName, samePool⟩ := names
  simp only [VolumeGroup.viewsOf, Prod.mk.injEq, decide_eq_decide] at views
  simp only [VolumeGroup.AgreeOn, VolumeGroup.journalIDs, VolumeGroup.imageIDs, sameId, sameName,
    samePool, members] at agree ⊢
  exact ⟨agree.1.trans views.1.symm, agree.2.trans views.2.symm⟩

theorem VolumeGroup.viewsOf_other (vg : VolumeGroup) {id : String} {vol : Volume} (other : vol.id ≠ id)
    (r : Request) (s : Cluster)
    (effect : (GroupCall.addVolume vol).Effect vg r ∨ (GroupCall.removeVolume vol).Effect vg r) :
    vg.viewsOf id (r.apply s) = vg.viewsOf id s := by
  have ne : id ≠ vol.id := Ne.symm other
  rcases effect with (rfl | ⟨pool, uuid, rfl⟩) | (rfl | ⟨pool, uuid, rfl⟩) <;>
    simp only [VolumeGroup.viewsOf, VolumeGroup.journalIDs, VolumeGroup.imageIDs, Request.apply,
      Function.update_apply] <;>
    split_ifs with key <;> (try rw [← key]) <;> simp [ne]

/-- Every call keeps the views agreeing on an ID, unless it adds or removes that ID and fails. -/
theorem GroupCall.run_agreeOn (c : GroupCall) (vg : VolumeGroup) (w : World) (id : String)
    (untouched : c.failedMember vg w ≠ some id) (agree : vg.AgreeOn w.state id) :
    (c.run vg w).1.AgreeOn (c.run vg w).2.state id := by
  have names := (c.run_names vg w).imp_right (·.imp_right (·.1))
  cases c with
  | addVolume vol =>
    by_cases own : vol.id = id
    · subst own
      have done : (vg.addVolume vol w).1 = none := by
        simpa [GroupCall.failedMember] using untouched
      obtain ⟨l, -, sent, -, ok⟩ := addVolume_spec vg vol w
      obtain ⟨rfl, succeeds, appended⟩ := ok done
      simp [GroupCall.run, sent, appended, addVolume_state vg vol w succeeds, VolumeGroup.AgreeOn,
        VolumeGroup.memberIDs, VolumeGroup.journalIDs, VolumeGroup.imageIDs]
    · refine VolumeGroup.agreeOn_of_kept names ?_
        ((GroupCall.addVolume vol).run_keeps _ vg w fun r effect s =>
          vg.viewsOf_other own r s (.inl effect)) agree
      obtain ⟨-, -, -, after | after, -⟩ := addVolume_spec vg vol w <;>
        simp [GroupCall.run, VolumeGroup.memberIDs, after, Ne.symm own]
  | removeVolume vol =>
    by_cases own : vol.id = id
    · subst own
      have done : (vg.removeVolume vol w).1 = none := by
        simpa [GroupCall.failedMember] using untouched
      obtain ⟨-, l, -, sent, ok⟩ := removeVolume_spec vg vol w
      rcases ok done with ⟨rfl, succeeds, filtered⟩ | ⟨same, kept, -⟩
      · simp [GroupCall.run, sent, filtered, removeVolume_state vg vol w succeeds, VolumeGroup.AgreeOn,
          VolumeGroup.memberIDs, VolumeGroup.journalIDs, VolumeGroup.imageIDs]
      · simpa only [GroupCall.run, same, kept] using agree
    · refine VolumeGroup.agreeOn_of_kept names ?_
        ((GroupCall.removeVolume vol).run_keeps _ vg w fun r effect s =>
          vg.viewsOf_other own r s (.inr effect)) agree
      obtain ⟨after | after, -⟩ := removeVolume_spec vg vol w
      · simp [GroupCall.run, after]
      · simp only [GroupCall.run, after, VolumeGroup.memberIDs, List.mem_map, List.mem_filter,
          decide_eq_true_eq]
        exact ⟨fun ⟨a, ⟨mem, _⟩, same⟩ => ⟨a, mem, same⟩,
          fun ⟨a, mem, same⟩ => ⟨a, ⟨mem, fun other => own (other ▸ same)⟩, same⟩⟩
  | listVolumes => exact agree
  | toCSI => simpa [GroupCall.run] using agree
  | createSnapshots name =>
    refine VolumeGroup.agreeOn_of_kept names Iff.rfl ((GroupCall.createSnapshots name).run_keeps _ vg w ?_) agree
    rintro r (⟨_, _, rfl | rfl⟩ | ⟨_, _, _, _, rfl⟩) s <;> rfl
  | destroy =>
    refine VolumeGroup.agreeOn_of_kept names ?_ (GroupCall.destroy.run_keeps _ vg w ?_) agree
    · simp only [GroupCall.run, VolumeGroup.memberIDs, VolumeGroup.destroy_volumes, List.mem_map]
    · rintro r rfl s
      cases vg.conn <;> rfl

/-- Over any run of calls, the three views come apart only on the IDs of volumes whose `AddVolume`
or `RemoveVolume` returned an error. -/
theorem views_apart_only_on_failures (cs : List GroupCall) (vg : VolumeGroup) (w : World) (id : String)
    (untouched : id ∉ failedMembers cs vg w) (agree : vg.AgreeOn w.state id) :
    (runCalls cs vg w).1.AgreeOn (runCalls cs vg w).2.state id := by
  induction cs generalizing vg w with
  | nil => exact agree
  | cons c cs ih =>
    simp only [failedMembers, List.mem_append, not_or, Option.mem_toList, Option.mem_def] at untouched
    exact ih _ _ untouched.2 (c.run_agreeOn vg w id untouched.1 agree)

/-- An `AddVolume` that fails on the journal update leaves the views apart on its volume; the
loaded volume is then removed, and the views still agree on it. -/
theorem failed_add_leaves_others_agreeing :
    let w : World := ⟨oneVolumeCluster, [], fun n => if n = 9 then some (.sentinel "EIO") else none⟩
    let cs := [GroupCall.addVolume ⟨0, "vol-2", "img-2"⟩, .removeVolume ⟨5, "vol-1", "img-1"⟩]
    let loaded := getVolumeGroup .inserted "g1" w
    loaded.1.1 = some loadedGroup ∧ failedMembers cs loadedGroup loaded.2 = ["vol-2"] ∧
      ¬ (runCalls cs loadedGroup loaded.2).1.AgreeOn (runCalls cs loadedGroup loaded.2).2.state "vol-2" ∧
      "vol-1" ∉ failedMembers cs loadedGroup loaded.2 ∧ loadedGroup.AgreeOn loaded.2.state "vol-1" ∧
      (runCalls cs loadedGroup loaded.2).1.AgreeOn (runCalls cs loadedGroup loaded.2).2.state "vol-1" :=
  ⟨by decide, by decide, by decide, by decide, by decide,
    views_apart_only_on_failures _ _ _ _ (by decide) (by decide)⟩

/-! ## Loading -/

/-- Every path of `GetVolumeGroup` sends its opening calls and some `GetVolumeByID` calls. -/
theorem getVolumeGroup_requests (order : RangeOrder) (id : String) (w : World) :
    ∃ l, (getVolumeGroup order id w).2.state = (w.sendAll Request.apply l).state ∧
      ∀ r ∈ l, r = .initCommonVolumeGroup id ∨ r = .getVolumeGroupAttributes id ∨
        ∃ volID handle, r = .getVolumeByID volID handle := by
  rcases getVolumeGroup_cases order id w with ⟨-, -, -, world⟩ | ⟨-, -, -, -, world⟩ |
    ⟨-, -, -, -, k, -, world⟩ | ⟨-, -, -, world⟩
  · exact ⟨_, congrArg Client.state world, by simp⟩
  · exact ⟨_, congrArg Client.state world, by simp⟩
  · refine ⟨_, by rw [world, destroyVolumes_state, ← Client.sendAll_append], fun r mem => ?_⟩
    rcases List.mem_append.mp mem with opening | resolving
    · simp at opening
      exact opening.imp_right .inl
    · obtain ⟨v, -, rfl⟩ := List.mem_map.mp (List.mem_of_mem_take resolving)
      exact .inr (.inr ⟨_, _, rfl⟩)
  · refine ⟨_, by rw [world, ← Client.sendAll_append], fun r mem => ?_⟩
    rcases List.mem_append.mp mem with opening | resolving
    · simp at opening
      exact opening.imp_right .inl
    · obtain ⟨v, -, rfl⟩ := List.mem_map.mp resolving
      exact .inr (.inr ⟨_, _, rfl⟩)

/-- `GetVolumeGroup` changes nothing but the handle counter and the connections, and a group it
returns lists its journal record's volume map in the order `range` walks it, a permutation. -/
theorem load_reads_journal (order : RangeOrder) (id : String) (w : World) :
    { (getVolumeGroup order id w).2.state with
        nextHandle := w.state.nextHandle, connections := w.state.connections } = w.state ∧
      ∀ vg, (getVolumeGroup order id w).1 = (some vg, none) →
        vg.memberIDs = order.walk (w.state.journal (vg.pool, (w.state.groupOf vg.id).objectUUID)) ∧
          vg.memberIDs.Perm (vg.journalIDs w.state) ∧
          ∀ vid, (vg.AgreeOn (getVolumeGroup order id w).2.state vid ↔
            (vid ∈ vg.journalIDs w.state ↔ vid ∈ vg.imageIDs w.state)) := by
  have frame : { (getVolumeGroup order id w).2.state with
      nextHandle := w.state.nextHandle, connections := w.state.connections } = w.state := by
    obtain ⟨l, world, inside⟩ := getVolumeGroup_requests order id w
    rw [world]
    refine Client.sendAll_preserves (fun c : Cluster =>
      { c with nextHandle := w.state.nextHandle, connections := w.state.connections }) fun r mem s => ?_
    rcases inside r mem with rfl | rfl | ⟨_, _, rfl⟩ <;> rfl
  refine ⟨frame, fun vg loaded => ?_⟩
  have journal : vg.journalIDs (getVolumeGroup order id w).2.state = vg.journalIDs w.state := by
    rw [← frame]
    rfl
  have images : vg.imageIDs (getVolumeGroup order id w).2.state = vg.imageIDs w.state := by
    rw [← frame]
    rfl
  have walked : vg.memberIDs = order.walk (w.state.journal (vg.pool, (w.state.groupOf vg.id).objectUUID)) := by
    rcases getVolumeGroup_cases order id w with ⟨-, result, -⟩ | ⟨-, -, failed, -⟩ | ⟨-, -, result, -⟩ |
      ⟨-, -, result, -⟩
    · simp [loaded] at result
    · simp [loaded] at failed
    · simp [loaded] at result
    · rw [loaded, Prod.mk.injEq, Option.some_inj] at result
      rw [result.1]
      simp [VolumeGroup.memberIDs, resolvedVolumes_ids]
  have members : vg.memberIDs.Perm (vg.journalIDs w.state) := walked ▸ order.perm _
  refine ⟨walked, members, fun vid => ?_⟩
  simp only [VolumeGroup.AgreeOn, journal, images, members.mem_iff, iff_self, true_and]

/-- The load of `g1` lists its one volume, on which the journal record and the rbd group agree. -/
theorem loaded_group_lists_journal :
    let w : World := ⟨oneVolumeCluster, [], fun _ => none⟩
    (getVolumeGroup .inserted "g1" w).1 = (some loadedGroup, none) ∧
      loadedGroup.memberIDs = RangeOrder.inserted.walk
          (w.state.journal (loadedGroup.pool, (w.state.groupOf loadedGroup.id).objectUUID)) ∧
        loadedGroup.memberIDs.Perm (loadedGroup.journalIDs w.state) ∧
        ∀ vid, (loadedGroup.AgreeOn (getVolumeGroup .inserted "g1" w).2.state vid ↔
          (vid ∈ loadedGroup.journalIDs w.state ↔ vid ∈ loadedGroup.imageIDs w.state)) :=
  have loaded : (getVolumeGroup .inserted "g1" ⟨oneVolumeCluster, [], fun _ => none⟩).1 =
      (some loadedGroup, none) := by
    decide
  ⟨loaded, (load_reads_journal _ _ _).2 _ loaded⟩

end CephCsi.Rbd
