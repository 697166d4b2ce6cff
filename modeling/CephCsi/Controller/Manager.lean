import CephCsi.Basic

namespace CephCsi.Controller

structure Config where
  driverName : String
  «namespace» : String
  clusterName : String
  instanceID : String
  setMetadata : Bool
  deriving DecidableEq, Repr

/-- The fields of `manager.Options` that `Start` sets. -/
structure Options where
  leaderElection : Bool
  metricsBindAddress : String
  leaderElectionNamespace : String
  leaderElectionResourceLock : String
  leaderElectionID : String
  deriving DecidableEq, Repr

/-- The manager controller-runtime made: the controllers added to it, and whether it runs. -/
structure Runtime where
  added : List String
  started : Bool
  deriving DecidableEq, Repr

/-- A call to controller-runtime: `manager.New`, a controller's `Add`, and the manager's `Start`. -/
inductive Request where
  | newManager (contentType : String) (opts : Options)
  | add (controller : String) (config : Config)
  | start
  deriving DecidableEq, Repr

/-- Modelled from the spec: controller-runtime is not among the sources. A new manager has
no controller and does not run; `Add` registers its controller. -/
def Request.apply : Request → Runtime → Runtime
  | .newManager _ _, _ => ⟨[], false⟩
  | .add c _, rt => { rt with added := rt.added ++ [c] }
  | .start, rt => { rt with started := true }

abbrev World := Client Request Runtime

def World.request (r : Request) (w : World) : Option Error × World := w.send Request.apply r

def contentTypeProtobuf : String := "application/vnd.kubernetes.protobuf"

def leasesResourceLock : String := "leases"

/-- The options of lines 300–309: leader election in the driver's namespace under the ID
`<driver>-<namespace>`, and no metrics server. -/
def managerOptions (config : Config) : Options :=
  ⟨true, "0", config.«namespace», leasesResourceLock, config.driverName ++ "-" ++ config.«namespace»⟩

/-- Two drivers compete for one leader-election lease exactly when they have the same driver name
and namespace; equal election IDs alone can come from different namespaces. -/
theorem lease_shared_iff (config config' : Config) :
    ((managerOptions config).leaderElectionNamespace = (managerOptions config').leaderElectionNamespace ∧
        (managerOptions config).leaderElectionResourceLock =
          (managerOptions config').leaderElectionResourceLock ∧
        (managerOptions config).leaderElectionID = (managerOptions config').leaderElectionID) ↔
      config.driverName = config'.driverName ∧ config.«namespace» = config'.«namespace» := by
  simp only [managerOptions, true_and]
  constructor
  · rintro ⟨sameNamespace, sameID⟩
    rw [sameNamespace] at sameID
    have chars := congrArg String.data sameID
    simp only [String.data_append, List.append_assoc] at chars
    exact ⟨String.ext (List.append_cancel_right chars), sameNamespace⟩
  · rintro ⟨sameDriver, sameNamespace⟩
    exact ⟨sameNamespace, by rw [sameDriver, sameNamespace]⟩

/-- Driver `a-b` in namespace `c` and driver `a` in namespace `b-c` share an election ID. -/
theorem same_id_apart_namespaces :
    (managerOptions ⟨"a-b", "c", "", "", false⟩).leaderElectionID =
        (managerOptions ⟨"a", "b-c", "", "", false⟩).leaderElectionID ∧
      ¬ ((managerOptions ⟨"a-b", "c", "", "", false⟩).leaderElectionNamespace =
          (managerOptions ⟨"a", "b-c", "", "", false⟩).leaderElectionNamespace ∧
        (managerOptions ⟨"a-b", "c", "", "", false⟩).leaderElectionResourceLock =
          (managerOptions ⟨"a", "b-c", "", "", false⟩).leaderElectionResourceLock ∧
        (managerOptions ⟨"a-b", "c", "", "", false⟩).leaderElectionID =
          (managerOptions ⟨"a", "b-c", "", "", false⟩).leaderElectionID) :=
  ⟨by decide, fun shared => absurd ((lease_shared_iff _ _).mp shared).1 (by decide)⟩

/-- `addToManager`: `Add` each controller in turn. -/
def addToManager (controllers : List String) (config : Config) (w : World) : Option Error × World :=
  match controllers with
  | [] => (none, w)
  | c :: rest =>
    match w.request (.add c config) with
    | (some err, w) => (some (.wrap "failed to add: %w" [] err), w)
    | (none, w) => addToManager rest config w

/-- `Start`, from the manager's creation on. -/
def start (controllers : List String) (config : Config) (w : World) : Option Error × World :=
  match w.request (.newManager contentTypeProtobuf (managerOptions config)) with
  | (some err, w) => (some err, w)
  | (none, w) =>
    match addToManager controllers config w with
    | (some err, w) => (some err, w)
    | (none, w) => w.request .start

end CephCsi.Controller
