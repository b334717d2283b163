import ProcessLaunch.Engine.Rest
import ProcessLaunch.Proofs.Engine.Refusal
import ProcessLaunch.Proofs.Path.Resolution

/-!
# Where resources are read

Both kinds of engine read a resource at one path, which begins with the text of their root.  Ways up
in a resource are followed all the same, so that path lies under the root as long as the resource
does not go further up than down.
-/

namespace ProcessLaunch

open ProcessLaunch.Path

/-! ## 1. The one path -/

/-- Of a disk a function sees no more than what can be read at one path. -/
def ReadsOnly {α : Type} (path : String) (f : Disk → α) : Prop :=
  ∀ disk disk' : Disk, disk.read path = disk'.read path → f disk = f disk'

/-- An engine in memory reads one path of the disk to deploy. -/
theorem InMemory.readsOnly_deploy (handle : Handle) (request : DeploymentRequest) (store : Store) :
    ReadsOnly (under handle.root request.resource) fun disk =>
      deploy disk handle request store := by
  intro disk disk' hread
  have htext : disk.readText (under handle.root request.resource) =
      disk'.readText (under handle.root request.resource) := by
    rw [Disk.readText, Disk.readText, hread]
  simp only [deploy, Registry.deploy, Registry.readKeys, htext]

theorem Rest.readsOnly_deploy (handle : Handle) (request : DeploymentRequest)
    (network : Http.Network) :
    ReadsOnly (under handle.root request.resource) fun disk =>
      deploy disk handle request network := by
  intro disk disk' hread
  simp only [deploy, hread]

variable {disk : Disk} {e : FileError}

/-- What cannot be read there is refused for that cause. -/
theorem InMemory.deploy_of_unread (handle : Handle) (request : DeploymentRequest)
    (h : disk.read (under handle.root request.resource) = .error e) (store : Store) :
    (deploy disk handle request store).result = .error (.ofResource request.resource e) := by
  have htext : disk.readText (under handle.root request.resource) = .error e := by
    rw [Disk.readText, h]
  rw [deploy_of_readKeys_error (Registry.readKeys_of_unread htext)]
  rfl

theorem Rest.deploy_of_unread (handle : Handle) (request : DeploymentRequest)
    (h : disk.read (under handle.root request.resource) = .error e) (network : Http.Network) :
    (deploy disk handle request network).result = .error (.ofResource request.resource e) := by
  unfold deploy
  rw [h]
  rfl

/-! ## 2. The root -/

/-- Both engines read a resource at the same path and see nothing else of the disk.  The path begins
with the root, whatever slashes the resource begins with, and leads where the steps of the resource
lead from there.  It lies under the root if the resource nowhere goes further up than down, and only
then, unless the resource comes back by the name of the root itself. -/
theorem resources_read_under_root (root resource : String) :
    (∀ (number : Nat) (baseUrl name : String),
      (∀ store, ReadsOnly (under root resource) fun disk =>
        InMemory.deploy disk ⟨root, number⟩ ⟨name, resource⟩ store) ∧
      (∀ network, ReadsOnly (under root resource) fun disk =>
        Rest.deploy disk ⟨baseUrl, root⟩ ⟨name, resource⟩ network) ∧
      ∀ (disk : Disk) (e : FileError), disk.read (under root resource) = .error e →
        (∀ store, (InMemory.deploy disk ⟨root, number⟩ ⟨name, resource⟩ store).result =
          .error (.ofResource resource e)) ∧
        ∀ network, (Rest.deploy disk ⟨baseUrl, root⟩ ⟨name, resource⟩ network).result =
          .error (.ofResource resource e)) ∧
    root.toList <+: (under root resource).toList ∧
    resolved (under root resource).toList =
      (steps resource.toList).foldl advance (resolved root.toList) ∧
    (StaysWithin 0 (steps resource.toList) → LiesUnder root.toList (under root resource).toList) ∧
    ∀ above text, resolved root.toList = above ++ [.name text] →
      .name text ∉ steps resource.toList →
        (LiesUnder root.toList (under root resource).toList ↔
          StaysWithin 0 (steps resource.toList)) := by
  refine ⟨fun number baseUrl name => ⟨fun store => ?_, fun network => ?_, fun disk e h => ?_⟩,
    prefix_under root resource, resolved_under root resource, liesUnder_of_staysWithin root,
    fun above text hroot hnot => liesUnder_iff hroot hnot⟩
  · exact InMemory.readsOnly_deploy ⟨root, number⟩ ⟨name, resource⟩ store
  · exact Rest.readsOnly_deploy ⟨baseUrl, root⟩ ⟨name, resource⟩ network
  · exact ⟨fun store => InMemory.deploy_of_unread ⟨root, number⟩ ⟨name, resource⟩ h store,
      fun network => Rest.deploy_of_unread ⟨baseUrl, root⟩ ⟨name, resource⟩ h network⟩

theorem resources_read_under_root_plain :
    StaysWithin 0 (steps "//bpmn/../p.bpmn".toList) ∧
    LiesUnder "resources".toList (under "resources" "//bpmn/../p.bpmn").toList := by
  have hsteps : steps "//bpmn/../p.bpmn".toList =
      [.name "bpmn".toList, .up, .name "p.bpmn".toList] := by decide +kernel
  have hstays : StaysWithin 0 (steps "//bpmn/../p.bpmn".toList) := by
    rw [hsteps, staysWithin_name, staysWithin_up, staysWithin_name]
    exact ⟨Nat.one_pos, staysWithin_nil _⟩
  exact ⟨hstays, (resources_read_under_root "resources" "//bpmn/../p.bpmn").2.2.2.1 hstays⟩

def modelBesideRoot : FileTree where
  workingDirectory := []
  nodes := [(["resources".toList], .directory),
    (["p.bpmn".toList], .file "<definitions><process id=\"x\"/></definitions>".toUTF8)]

/-- A way up leads out of the root, and what stands there is deployed. -/
theorem resource_beside_root_is_read :
    under "resources" "../p.bpmn" = "resources/../p.bpmn" ∧
    ¬LiesUnder "resources".toList "resources/../p.bpmn".toList ∧
    (InMemory.deploy modelBesideRoot.disk ⟨"resources", 0⟩ (.ofResource "../p.bpmn")
        (.empty ⟨fun n => s!"id{n}", 0⟩)).result =
      .ok ⟨"id2", "p", [⟨"x:1:id1", "x", 1, "../p.bpmn"⟩]⟩ := by
  refine ⟨by decide +kernel, ?_, by decide +kernel⟩
  have hresolved : resolved "resources".toList = [.name "resources".toList] ∧
      resolved "resources/../p.bpmn".toList = [.name "p.bpmn".toList] := by decide +kernel
  rw [LiesUnder, hresolved.1, hresolved.2]
  decide +kernel

end ProcessLaunch
