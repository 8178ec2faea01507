import PlatformManifests.Proofs.ReadBack
import PlatformManifests.Resource

/-!
The documents of the cluster. Each record that is written is read back as it was, whatever is left
out because it is absent or empty: what is left out is what a missing member is read as.
-/
namespace PlatformManifests

open Reading

/-! ### Metadata -/

theorem Metadata.readsBack : ReadsBack Metadata.read Metadata.toJson := by
  refine record_readsBack (fun _ => rfl) (by decide) ?_
  rintro ⟨name, space, labels, annotations⟩ members held
  exact (held.required text_readsBack (by simp)).map
    |>.seq (held.required text_readsBack (by simp))
    |>.seq (held.dict (by simp))
    |>.seq (held.dict (by simp))

theorem LabelSelector.readsBack : ReadsBack LabelSelector.read LabelSelector.toJson := by
  refine record_readsBack (fun _ => rfl) (by decide) ?_
  rintro ⟨labels⟩ members held
  exact (held.dict (by simp)).map

/-! ### Probes -/

theorem TcpAction.readsBack : ReadsBack TcpAction.read TcpAction.toJson := by
  refine record_readsBack (fun _ => rfl) (by decide) ?_
  rintro ⟨port⟩ members held
  exact (held.required port_readsBack (by simp)).map

theorem HttpAction.readsBack : ReadsBack HttpAction.read HttpAction.toJson := by
  refine record_readsBack (fun _ => rfl) (by decide) ?_
  rintro ⟨path, port⟩ members held
  exact (held.required text_readsBack (by simp)).map
    |>.seq (held.required port_readsBack (by simp))

theorem ExecAction.readsBack : ReadsBack ExecAction.read ExecAction.toJson := by
  refine record_readsBack (fun _ => rfl) (by decide) ?_
  rintro ⟨command⟩ members held
  exact (held.required texts_readsBack (by simp)).map

theorem Probe.readsBack : ReadsBack Probe.read Probe.toJson := by
  have counts : ReadsBack (readCount : Json → _) Probe.count := count_readsBack
  refine record_readsBack (fun _ => rfl) (by decide) ?_
  rintro ⟨tcp, http, exec, delay, period, timeout, threshold⟩ members held
  exact (held.optional TcpAction.readsBack (by simp)).map
    |>.seq (held.optional HttpAction.readsBack (by simp))
    |>.seq (held.optional ExecAction.readsBack (by simp))
    |>.seq (held.optional counts (by simp))
    |>.seq (held.optional counts (by simp))
    |>.seq (held.optional counts (by simp))
    |>.seq (held.optional counts (by simp))

/-! ### Containers -/

theorem SecretKey.readsBack : ReadsBack SecretKey.read SecretKey.toJson := by
  refine record_readsBack (fun _ => rfl) (by decide) ?_
  rintro ⟨name, key⟩ members held
  exact (held.required text_readsBack (by simp)).map
    |>.seq (held.required text_readsBack (by simp))

theorem EnvSource.readsBack : ReadsBack EnvSource.read EnvSource.toJson := by
  refine record_readsBack (fun _ => rfl) (by decide) ?_
  rintro ⟨secret⟩ members held
  exact (held.required SecretKey.readsBack (by simp)).map

theorem EnvVar.readsBack : ReadsBack EnvVar.read EnvVar.toJson := by
  refine record_readsBack (fun _ => rfl) (by decide) ?_
  rintro ⟨name, value, valueFrom⟩ members held
  exact (held.required text_readsBack (by simp)).map
    |>.seq (held.optional text_readsBack (by simp))
    |>.seq (held.optional EnvSource.readsBack (by simp))

theorem ContainerPort.readsBack : ReadsBack ContainerPort.read ContainerPort.toJson := by
  refine record_readsBack (fun _ => rfl) (by decide) ?_
  rintro ⟨name, port, protocol⟩ members held
  exact (held.optional text_readsBack (by simp)).map
    |>.seq (held.required port_readsBack (by simp))
    |>.seq (held.optional text_readsBack (by simp))

theorem VolumeMount.readsBack : ReadsBack VolumeMount.read VolumeMount.toJson := by
  refine record_readsBack (fun _ => rfl) (by decide) ?_
  rintro ⟨name, path, fixed⟩ members held
  exact (held.required text_readsBack (by simp)).map
    |>.seq (held.required text_readsBack (by simp))
    |>.seq (held.optional boolean_readsBack (by simp))

theorem Container.readsBack : ReadsBack Container.read Container.toJson := by
  refine record_readsBack (fun _ => rfl) (by decide) ?_
  rintro ⟨name, image, command, args, env, ports, readiness, liveness, mounts⟩ members held
  exact (held.required text_readsBack (by simp)).map
    |>.seq (held.required text_readsBack (by simp))
    |>.seq (held.optional texts_readsBack (by simp))
    |>.seq (held.optional texts_readsBack (by simp))
    |>.seq (held.list EnvVar.readsBack (by simp))
    |>.seq (held.list ContainerPort.readsBack (by simp))
    |>.seq (held.optional Probe.readsBack (by simp))
    |>.seq (held.optional Probe.readsBack (by simp))
    |>.seq (held.list VolumeMount.readsBack (by simp))

/-! ### Pods -/

theorem ConfigMapVolume.readsBack : ReadsBack ConfigMapVolume.read ConfigMapVolume.toJson := by
  refine record_readsBack (fun _ => rfl) (by decide) ?_
  rintro ⟨name⟩ members held
  exact (held.required text_readsBack (by simp)).map

theorem ClaimVolume.readsBack : ReadsBack ClaimVolume.read ClaimVolume.toJson := by
  refine record_readsBack (fun _ => rfl) (by decide) ?_
  rintro ⟨claimName⟩ members held
  exact (held.required text_readsBack (by simp)).map

theorem ScratchVolume.readsBack : ReadsBack ScratchVolume.read ScratchVolume.toJson := by
  refine record_readsBack (fun _ => rfl) (by decide) ?_
  rintro ⟨⟩ members held
  rfl

theorem Volume.readsBack : ReadsBack Volume.read Volume.toJson := by
  refine record_readsBack (fun _ => rfl) (by decide) ?_
  rintro ⟨name, configMap, emptyDir, claim⟩ members held
  exact (held.required text_readsBack (by simp)).map
    |>.seq (held.optional ConfigMapVolume.readsBack (by simp))
    |>.seq (held.optional ScratchVolume.readsBack (by simp))
    |>.seq (held.optional ClaimVolume.readsBack (by simp))

theorem PodSecurity.readsBack : ReadsBack PodSecurity.read PodSecurity.toJson := by
  refine record_readsBack (fun _ => rfl) (by decide) ?_
  rintro ⟨fsGroup⟩ members held
  exact (held.optional wide_readsBack (by simp)).map

theorem PodSpec.readsBack : ReadsBack PodSpec.read PodSpec.toJson := by
  refine record_readsBack (fun _ => rfl) (by decide) ?_
  rintro ⟨account, token, first, containers, volumes, restart, security⟩ members held
  exact (held.optional text_readsBack (by simp)).map
    |>.seq (held.optional boolean_readsBack (by simp))
    |>.seq (held.list Container.readsBack (by simp))
    |>.seq (held.required (list_readsBack Container.readsBack) (by simp))
    |>.seq (held.list Volume.readsBack (by simp))
    |>.seq (held.optional text_readsBack (by simp))
    |>.seq (held.optional PodSecurity.readsBack (by simp))

theorem PodMetadata.readsBack : ReadsBack PodMetadata.read PodMetadata.toJson := by
  refine record_readsBack (fun _ => rfl) (by decide) ?_
  rintro ⟨labels⟩ members held
  exact (held.required textDict_readsBack (by simp)).map

theorem PodTemplate.readsBack : ReadsBack PodTemplate.read PodTemplate.toJson := by
  refine record_readsBack (fun _ => rfl) (by decide) ?_
  rintro ⟨metadata, spec⟩ members held
  exact (held.required PodMetadata.readsBack (by simp)).map
    |>.seq (held.required PodSpec.readsBack (by simp))

/-! ### Access -/

theorem PolicyRule.readsBack : ReadsBack PolicyRule.read PolicyRule.toJson := by
  refine record_readsBack (fun _ => rfl) (by decide) ?_
  rintro ⟨apiGroups, resources, verbs⟩ members held
  exact (held.required texts_readsBack (by simp)).map
    |>.seq (held.required texts_readsBack (by simp))
    |>.seq (held.required texts_readsBack (by simp))

theorem RoleRef.readsBack : ReadsBack RoleRef.read RoleRef.toJson := by
  refine record_readsBack (fun _ => rfl) (by decide) ?_
  rintro ⟨apiGroup, kind, name⟩ members held
  exact (held.required text_readsBack (by simp)).map
    |>.seq (held.required text_readsBack (by simp))
    |>.seq (held.required text_readsBack (by simp))

theorem Subject.readsBack : ReadsBack Subject.read Subject.toJson := by
  refine record_readsBack (fun _ => rfl) (by decide) ?_
  rintro ⟨kind, name, space⟩ members held
  exact (held.required text_readsBack (by simp)).map
    |>.seq (held.required text_readsBack (by simp))
    |>.seq (held.required text_readsBack (by simp))

/-! ### Services and volume claims -/

theorem ServicePort.readsBack : ReadsBack ServicePort.read ServicePort.toJson := by
  refine record_readsBack (fun _ => rfl) (by decide) ?_
  rintro ⟨name, port, targetPort, protocol⟩ members held
  exact (held.required text_readsBack (by simp)).map
    |>.seq (held.required port_readsBack (by simp))
    |>.seq (held.required text_readsBack (by simp))
    |>.seq (held.required text_readsBack (by simp))

theorem Service.readsBack : ReadsBack Service.read Service.toJson := by
  refine record_readsBack (fun _ => rfl) (by decide) ?_
  rintro ⟨selector, ports, exposure⟩ members held
  exact (held.required textDict_readsBack (by simp)).map
    |>.seq (held.required (list_readsBack ServicePort.readsBack) (by simp))
    |>.seq (held.required text_readsBack (by simp))

theorem StorageRequest.readsBack : ReadsBack StorageRequest.read StorageRequest.toJson := by
  refine record_readsBack (fun _ => rfl) (by decide) ?_
  rintro ⟨storage⟩ members held
  exact (held.required text_readsBack (by simp)).map

theorem ClaimResources.readsBack : ReadsBack ClaimResources.read ClaimResources.toJson := by
  refine record_readsBack (fun _ => rfl) (by decide) ?_
  rintro ⟨requests⟩ members held
  exact (held.required StorageRequest.readsBack (by simp)).map

theorem VolumeClaim.readsBack : ReadsBack VolumeClaim.read VolumeClaim.toJson := by
  refine record_readsBack (fun _ => rfl) (by decide) ?_
  rintro ⟨accessModes, resources, storageClass⟩ members held
  exact (held.required texts_readsBack (by simp)).map
    |>.seq (held.required ClaimResources.readsBack (by simp))
    |>.seq (held.optional text_readsBack (by simp))

/-! ### Workloads -/

theorem StatefulSet.readsBack : ReadsBack StatefulSet.read StatefulSet.toJson := by
  refine record_readsBack (fun _ => rfl) (by decide) ?_
  rintro ⟨serviceName, replicas, selector, template⟩ members held
  exact (held.required text_readsBack (by simp)).map
    |>.seq (held.required count_readsBack (by simp))
    |>.seq (held.required LabelSelector.readsBack (by simp))
    |>.seq (held.required PodTemplate.readsBack (by simp))

theorem Deployment.readsBack : ReadsBack Deployment.read Deployment.toJson := by
  refine record_readsBack (fun _ => rfl) (by decide) ?_
  rintro ⟨replicas, selector, template⟩ members held
  exact (held.required count_readsBack (by simp)).map
    |>.seq (held.required LabelSelector.readsBack (by simp))
    |>.seq (held.required PodTemplate.readsBack (by simp))

theorem Job.readsBack : ReadsBack Job.read Job.toJson := by
  refine record_readsBack (fun _ => rfl) (by decide) ?_
  rintro ⟨backoffLimit, template⟩ members held
  exact (held.required count_readsBack (by simp)).map
    |>.seq (held.required PodTemplate.readsBack (by simp))

/-! ### Ingresses and certificates -/

theorem BackendPort.readsBack : ReadsBack BackendPort.read BackendPort.toJson := by
  refine record_readsBack (fun _ => rfl) (by decide) ?_
  rintro ⟨number⟩ members held
  exact (held.required port_readsBack (by simp)).map

theorem ServiceBackend.readsBack : ReadsBack ServiceBackend.read ServiceBackend.toJson := by
  refine record_readsBack (fun _ => rfl) (by decide) ?_
  rintro ⟨name, port⟩ members held
  exact (held.required text_readsBack (by simp)).map
    |>.seq (held.required BackendPort.readsBack (by simp))

theorem Backend.readsBack : ReadsBack Backend.read Backend.toJson := by
  refine record_readsBack (fun _ => rfl) (by decide) ?_
  rintro ⟨service⟩ members held
  exact (held.required ServiceBackend.readsBack (by simp)).map

theorem IngressPath.readsBack : ReadsBack IngressPath.read IngressPath.toJson := by
  refine record_readsBack (fun _ => rfl) (by decide) ?_
  rintro ⟨path, pathType, backend⟩ members held
  exact (held.required text_readsBack (by simp)).map
    |>.seq (held.required text_readsBack (by simp))
    |>.seq (held.required Backend.readsBack (by simp))

theorem IngressPaths.readsBack : ReadsBack IngressPaths.read IngressPaths.toJson := by
  refine record_readsBack (fun _ => rfl) (by decide) ?_
  rintro ⟨paths⟩ members held
  exact (held.required (list_readsBack IngressPath.readsBack) (by simp)).map

theorem IngressRule.readsBack : ReadsBack IngressRule.read IngressRule.toJson := by
  refine record_readsBack (fun _ => rfl) (by decide) ?_
  rintro ⟨host, http⟩ members held
  exact (held.required text_readsBack (by simp)).map
    |>.seq (held.required IngressPaths.readsBack (by simp))

theorem IngressTls.readsBack : ReadsBack IngressTls.read IngressTls.toJson := by
  refine record_readsBack (fun _ => rfl) (by decide) ?_
  rintro ⟨hosts, secretName⟩ members held
  exact (held.required texts_readsBack (by simp)).map
    |>.seq (held.required text_readsBack (by simp))

theorem Ingress.readsBack : ReadsBack Ingress.read Ingress.toJson := by
  refine record_readsBack (fun _ => rfl) (by decide) ?_
  rintro ⟨ingressClass, tls, rules⟩ members held
  exact (held.required text_readsBack (by simp)).map
    |>.seq (held.list IngressTls.readsBack (by simp))
    |>.seq (held.required (list_readsBack IngressRule.readsBack) (by simp))

theorem IssuerRef.readsBack : ReadsBack IssuerRef.read IssuerRef.toJson := by
  refine record_readsBack (fun _ => rfl) (by decide) ?_
  rintro ⟨name, kind, group⟩ members held
  exact (held.required text_readsBack (by simp)).map
    |>.seq (held.required text_readsBack (by simp))
    |>.seq (held.required text_readsBack (by simp))

theorem Certificate.readsBack : ReadsBack Certificate.read Certificate.toJson := by
  refine record_readsBack (fun _ => rfl) (by decide) ?_
  rintro ⟨secretName, dnsNames, issuerRef⟩ members held
  exact (held.required text_readsBack (by simp)).map
    |>.seq (held.required texts_readsBack (by simp))
    |>.seq (held.required IssuerRef.readsBack (by simp))

/-! ### Manifests -/

/-- The part of a manifest that depends on its kind is read back from its own members. -/
structure Body.ReadsBack (β : Type) [Body β] : Prop where
  names (body : β) : (Body.write body).map Prod.fst = Body.fields β
  distinct : (Manifest.shape β).fields.Nodup
  gives {members : Members Json} {fields : List (String × Option Json)}
    (held : members.Holds fields) {body : β} (written : ∀ field ∈ Body.write body, field ∈ fields) :
    (Body.read members).Gives body

theorem Manifest.readsBack {β : Type} [Body β] (body : Body.ReadsBack β) :
    ReadsBack (Manifest.read (β := β)) Manifest.toJson := by
  refine record_readsBack (fun manifest => ?_) body.distinct ?_
  · exact congrArg (["apiVersion", "kind", "metadata"] ++ ·) (body.names manifest.body)
  · rintro ⟨apiVersion, kind, metadata, held⟩ members holds
    exact (holds.withDefault text_readsBack (by simp)).map
      |>.seq (holds.withDefault text_readsBack (by simp))
      |>.seq (holds.required Metadata.readsBack (by simp))
      |>.seq (body.gives holds fun field listed => List.mem_append_right _ listed)

theorem ServiceAccount.bodyReadsBack : Body.ReadsBack ServiceAccount where
  names _ := rfl
  distinct := by decide
  gives {_ _} held {body} written := by
    obtain ⟨token⟩ := body
    exact (held.optional boolean_readsBack (written _ (by simp [Body.write]))).map

theorem Role.bodyReadsBack : Body.ReadsBack Role where
  names _ := rfl
  distinct := by decide
  gives {_ _} held {body} written := by
    obtain ⟨rules⟩ := body
    have reads := list_readsBack PolicyRule.readsBack
    exact (held.required reads (written _ (by simp [Body.write]))).map

theorem RoleBinding.bodyReadsBack : Body.ReadsBack RoleBinding where
  names _ := rfl
  distinct := by decide
  gives {_ _} held {body} written := by
    obtain ⟨role, subjects⟩ := body
    have reads := list_readsBack Subject.readsBack
    exact (held.required RoleRef.readsBack (written _ (by simp [Body.write]))).map
      |>.seq (held.required reads (written _ (by simp [Body.write])))

theorem ConfigMap.bodyReadsBack : Body.ReadsBack ConfigMap where
  names _ := rfl
  distinct := by decide
  gives {_ _} held {body} written := by
    obtain ⟨data⟩ := body
    exact (held.dict (written _ (by simp [Body.write]))).map

/-- Most kinds have a single field after the metadata. -/
theorem Body.readsBack_of_spec {β : Type} [Body β] {read : Json → Except Fault β}
    {write : β → Json} (reads : Reading.ReadsBack read write)
    (fields : Body.fields β = ["spec"])
    (reader : ∀ members, Body.read members = members.required "spec" read)
    (writer : ∀ body : β, Body.write body = [("spec", some (write body))]) :
    Body.ReadsBack β where
  names body := by
    rw [writer, fields]
    rfl
  distinct := by
    have all : (Manifest.shape β).fields = ["apiVersion", "kind", "metadata", "spec"] :=
      congrArg (["apiVersion", "kind", "metadata"] ++ ·) fields
    rw [all]
    decide
  gives {_ _} held {body} written := by
    rw [reader]
    rw [writer] at written
    exact held.required reads (written _ List.mem_cons_self)

theorem VolumeClaim.bodyReadsBack : Body.ReadsBack VolumeClaim :=
  Body.readsBack_of_spec VolumeClaim.readsBack rfl (fun _ => rfl) fun _ => rfl

theorem Service.bodyReadsBack : Body.ReadsBack Service :=
  Body.readsBack_of_spec Service.readsBack rfl (fun _ => rfl) fun _ => rfl

theorem StatefulSet.bodyReadsBack : Body.ReadsBack StatefulSet :=
  Body.readsBack_of_spec StatefulSet.readsBack rfl (fun _ => rfl) fun _ => rfl

theorem Deployment.bodyReadsBack : Body.ReadsBack Deployment :=
  Body.readsBack_of_spec Deployment.readsBack rfl (fun _ => rfl) fun _ => rfl

theorem Job.bodyReadsBack : Body.ReadsBack Job :=
  Body.readsBack_of_spec Job.readsBack rfl (fun _ => rfl) fun _ => rfl

theorem Certificate.bodyReadsBack : Body.ReadsBack Certificate :=
  Body.readsBack_of_spec Certificate.readsBack rfl (fun _ => rfl) fun _ => rfl

theorem Ingress.bodyReadsBack : Body.ReadsBack Ingress :=
  Body.readsBack_of_spec Ingress.readsBack rfl (fun _ => rfl) fun _ => rfl

/-! ### Resources -/

namespace Reading.ReadsBack

variable {α : Type} {read : Json → Except Fault α} {write : α → Json}

theorem read_write (reads : ReadsBack read write) (value : α) : read (write value) = .ok value :=
  reads.back rfl

theorem injective (reads : ReadsBack read write) : Function.Injective write := by
  intro first second same
  have again := reads.read_write first
  rw [same, reads.read_write] at again
  exact (Except.ok.inj again).symm

end Reading.ReadsBack

theorem Manifest.map_read_toJson {β : Type} [Body β] (reads : Body.ReadsBack β)
    (manifest : Manifest β) (kind : Manifest β → Resource) :
    (Manifest.read manifest.toJson).map kind = .ok (kind manifest) := by
  rw [(Manifest.readsBack reads).read_write manifest]
  rfl

namespace Resource

/-- A resource of any kind is read back, if it is read as one of its kind. -/
theorem read_toJson (resource : Resource) :
    Resource.read resource.kind resource.toJson = .ok resource := by
  cases resource with
  | serviceAccount =>
    simp only [kind, toJson, read, Manifest.map_read_toJson ServiceAccount.bodyReadsBack]
  | role =>
    simp only [kind, toJson, read, Manifest.map_read_toJson Role.bodyReadsBack]
  | roleBinding =>
    simp only [kind, toJson, read, Manifest.map_read_toJson RoleBinding.bodyReadsBack]
  | configMap =>
    simp only [kind, toJson, read, Manifest.map_read_toJson ConfigMap.bodyReadsBack]
  | volumeClaim =>
    simp only [kind, toJson, read, Manifest.map_read_toJson VolumeClaim.bodyReadsBack]
  | service =>
    simp only [kind, toJson, read, Manifest.map_read_toJson Service.bodyReadsBack]
  | statefulSet =>
    simp only [kind, toJson, read, Manifest.map_read_toJson StatefulSet.bodyReadsBack]
  | deployment =>
    simp only [kind, toJson, read, Manifest.map_read_toJson Deployment.bodyReadsBack]
  | job =>
    simp only [kind, toJson, read, Manifest.map_read_toJson Job.bodyReadsBack]
  | certificate =>
    simp only [kind, toJson, read, Manifest.map_read_toJson Certificate.bodyReadsBack]
  | ingress =>
    simp only [kind, toJson, read, Manifest.map_read_toJson Ingress.bodyReadsBack]

theorem kind_of_read {kind : Kind} {json : Json} {resource : Resource}
    (given : Resource.read kind json = .ok resource) : resource.kind = kind := by
  cases kind <;>
  · obtain ⟨manifest, _, rfl⟩ := Outcome.map_eq_ok.mp given
    rfl

theorem toJson_inj_of_kind {first second : Resource} (kinds : first.kind = second.kind)
    (same : first.toJson = second.toJson) : first = second := by
  have again := first.read_toJson
  rw [kinds, same, second.read_toJson] at again
  exact (Except.ok.inj again).symm

end Resource

/-- Containers, pods and resources of all kinds are read back as they were written. So what is
written tells apart what is different, and to read what was written and to write it again changes
nothing. -/
theorem documents_read_back :
    (∀ container : Container, Container.read container.toJson = .ok container) ∧
    (∀ pod : PodSpec, PodSpec.read pod.toJson = .ok pod) ∧
    (∀ resource : Resource, Resource.read resource.kind resource.toJson = .ok resource) ∧
    Function.Injective Container.toJson ∧ Function.Injective PodSpec.toJson ∧
    (∀ first second : Resource, first.kind = second.kind → first.toJson = second.toJson →
      first = second) ∧
    (∀ json container, Container.read json = .ok container →
      (Container.read container.toJson).map Container.toJson = .ok container.toJson) ∧
    (∀ json pod, PodSpec.read json = .ok pod →
      (PodSpec.read pod.toJson).map PodSpec.toJson = .ok pod.toJson) ∧
    ∀ kind json resource, Resource.read kind json = .ok resource →
      (Resource.read kind resource.toJson).map Resource.toJson = .ok resource.toJson := by
  refine ⟨Container.readsBack.read_write, PodSpec.readsBack.read_write, Resource.read_toJson,
    Container.readsBack.injective, PodSpec.readsBack.injective,
    fun _ _ => Resource.toJson_inj_of_kind, ?_, ?_, ?_⟩
  · intro json container _
    rw [Container.readsBack.read_write]
    rfl
  · intro json pod _
    rw [PodSpec.readsBack.read_write]
    rfl
  · intro kind json resource given
    rw [← Resource.kind_of_read given, Resource.read_toJson]
    rfl

end PlatformManifests
