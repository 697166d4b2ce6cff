import CephCsi.Basic
import CephCsi.CephFS.CloneState
import CephCsi.CephFS.Clone
import CephCsi.CephFS.Compensation
import CephCsi.Rbd.Group
import CephCsi.Rbd.Membership
import CephCsi.Rbd.Snapshots
import CephCsi.Rbd.Ownership
import CephCsi.Rbd.Runs
import CephCsi.CsiAddons.ReclaimSpace
import CephCsi.CsiAddons.Server
import CephCsi.CsiAddons.Interleavings
import CephCsi.Controller.Manager
