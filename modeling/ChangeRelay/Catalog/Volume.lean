import ChangeRelay.Catalog.Claim
import ChangeRelay.Catalog.Meta

/-!
# Volumes

The volumes of a pod, one record for each kind of source.
-/

namespace ChangeRelay.Catalog

open Schema

/-- The `AWSElasticBlockStoreVolumeSource` record. -/
def awsElasticBlockStoreVolumeSource : Shape :=
  .ofRows [
    optional "fsType" .text,
    optional "partition" .int32,
    optional "readOnly" .flag,
    defaulted "volumeID" .text]

/-- The `AzureDiskVolumeSource` record. -/
def azureDiskVolumeSource : Shape :=
  .ofRows [
    optional "cachingMode" .text,
    defaulted "diskName" .text,
    defaulted "diskURI" .text,
    optional "fsType" .text,
    optional "kind" .text,
    optional "readOnly" .flag]

/-- The `AzureFileVolumeSource` record. -/
def azureFileVolumeSource : Shape :=
  .ofRows [
    optional "readOnly" .flag,
    defaulted "secretName" .text,
    defaulted "shareName" .text]

/-- The `CSIVolumeSource` record. -/
def csiVolumeSource : Shape :=
  .ofRows [
    defaulted "driver" .text,
    optional "fsType" .text,
    optional "nodePublishSecretRef" localObjectReference,
    optional "readOnly" .flag,
    optional "volumeAttributes" (.map .text)]

/-- The `CephFSVolumeSource` record. -/
def cephFSVolumeSource : Shape :=
  .ofRows [
    defaulted "monitors" (.list .text),
    optional "path" .text,
    optional "readOnly" .flag,
    optional "secretFile" .text,
    optional "secretRef" localObjectReference,
    optional "user" .text]

/-- The `CinderVolumeSource` record. -/
def cinderVolumeSource : Shape :=
  .ofRows [
    optional "fsType" .text,
    optional "readOnly" .flag,
    optional "secretRef" localObjectReference,
    defaulted "volumeID" .text]

/-- The `ClusterTrustBundleProjection` record. -/
def clusterTrustBundleProjection : Shape :=
  .ofRows [
    optional "labelSelector" labelSelector,
    optional "name" .text,
    optional "optional" .flag,
    defaulted "path" .text,
    optional "signerName" .text]

/-- The `ConfigMapProjection` record. -/
def configMapProjection : Shape :=
  .ofRows [
    optional "items" (.list keyToPath),
    defaulted "name" .text,
    optional "optional" .flag]

/-- The `ConfigMapVolumeSource` record. -/
def configMapVolumeSource : Shape :=
  .ofRows [
    optional "defaultMode" .int32,
    optional "items" (.list keyToPath),
    defaulted "name" .text,
    optional "optional" .flag]

/-- The `DownwardAPIVolumeFile` record. -/
def downwardAPIVolumeFile : Shape :=
  .ofRows [
    optional "fieldRef" objectFieldSelector,
    optional "mode" .int32,
    defaulted "path" .text,
    optional "resourceFieldRef" resourceFieldSelector]

/-- The `DownwardAPIProjection` record. -/
def downwardAPIProjection : Shape :=
  .ofRows [
    optional "items" (.list downwardAPIVolumeFile)]

/-- The `DownwardAPIVolumeSource` record. -/
def downwardAPIVolumeSource : Shape :=
  .ofRows [
    optional "defaultMode" .int32,
    optional "items" (.list downwardAPIVolumeFile)]

/-- The `EmptyDirVolumeSource` record. -/
def emptyDirVolumeSource : Shape :=
  .ofRows [
    optional "medium" .text,
    optional "sizeLimit" .text]

/-- The `EphemeralVolumeSource` record. -/
def ephemeralVolumeSource : Shape :=
  .ofRows [
    optional "volumeClaimTemplate" persistentVolumeClaimTemplate]

/-- The `FCVolumeSource` record. -/
def fcVolumeSource : Shape :=
  .ofRows [
    optional "fsType" .text,
    optional "lun" .int32,
    optional "readOnly" .flag,
    optional "targetWWNs" (.list .text),
    optional "wwids" (.list .text)]

/-- The `FlexVolumeSource` record. -/
def flexVolumeSource : Shape :=
  .ofRows [
    defaulted "driver" .text,
    optional "fsType" .text,
    optional "options" (.map .text),
    optional "readOnly" .flag,
    optional "secretRef" localObjectReference]

/-- The `FlockerVolumeSource` record. -/
def flockerVolumeSource : Shape :=
  .ofRows [
    optional "datasetName" .text,
    optional "datasetUUID" .text]

/-- The `GCEPersistentDiskVolumeSource` record. -/
def gcePersistentDiskVolumeSource : Shape :=
  .ofRows [
    optional "fsType" .text,
    optional "partition" .int32,
    defaulted "pdName" .text,
    optional "readOnly" .flag]

/-- The `GitRepoVolumeSource` record. -/
def gitRepoVolumeSource : Shape :=
  .ofRows [
    optional "directory" .text,
    defaulted "repository" .text,
    optional "revision" .text]

/-- The `GlusterfsVolumeSource` record. -/
def glusterfsVolumeSource : Shape :=
  .ofRows [
    defaulted "endpoints" .text,
    defaulted "path" .text,
    optional "readOnly" .flag]

/-- The `HostPathVolumeSource` record. -/
def hostPathVolumeSource : Shape :=
  .ofRows [
    defaulted "path" .text,
    optional "type" .text]

/-- The `ISCSIVolumeSource` record. -/
def iscsiVolumeSource : Shape :=
  .ofRows [
    optional "chapAuthDiscovery" .flag,
    optional "chapAuthSession" .flag,
    optional "fsType" .text,
    optional "initiatorName" .text,
    defaulted "iqn" .text,
    optional "iscsiInterface" .text,
    defaulted "lun" .int32,
    optional "portals" (.list .text),
    optional "readOnly" .flag,
    optional "secretRef" localObjectReference,
    defaulted "targetPortal" .text]

/-- The `ImageVolumeSource` record. -/
def imageVolumeSource : Shape :=
  .ofRows [
    optional "pullPolicy" .text,
    optional "reference" .text]

/-- The `NFSVolumeSource` record. -/
def nfsVolumeSource : Shape :=
  .ofRows [
    defaulted "path" .text,
    optional "readOnly" .flag,
    defaulted "server" .text]

/-- The `PersistentVolumeClaimVolumeSource` record. -/
def persistentVolumeClaimVolumeSource : Shape :=
  .ofRows [
    defaulted "claimName" .text,
    optional "readOnly" .flag]

/-- The `PhotonPersistentDiskVolumeSource` record. -/
def photonPersistentDiskVolumeSource : Shape :=
  .ofRows [
    optional "fsType" .text,
    defaulted "pdID" .text]

/-- The `PortworxVolumeSource` record. -/
def portworxVolumeSource : Shape :=
  .ofRows [
    optional "fsType" .text,
    optional "readOnly" .flag,
    defaulted "volumeID" .text]

/-- The `SecretProjection` record. -/
def secretProjection : Shape :=
  .ofRows [
    optional "items" (.list keyToPath),
    defaulted "name" .text,
    optional "optional" .flag]

/-- The `ServiceAccountTokenProjection` record. -/
def serviceAccountTokenProjection : Shape :=
  .ofRows [
    optional "audience" .text,
    optional "expirationSeconds" .int64,
    defaulted "path" .text]

/-- The `VolumeProjection` record. -/
def volumeProjection : Shape :=
  .ofRows [
    optional "clusterTrustBundle" clusterTrustBundleProjection,
    optional "configMap" configMapProjection,
    optional "downwardAPI" downwardAPIProjection,
    optional "secret" secretProjection,
    optional "serviceAccountToken" serviceAccountTokenProjection]

/-- The `ProjectedVolumeSource` record. -/
def projectedVolumeSource : Shape :=
  .ofRows [
    optional "defaultMode" .int32,
    optional "sources" (.list volumeProjection)]

/-- The `QuobyteVolumeSource` record. -/
def quobyteVolumeSource : Shape :=
  .ofRows [
    optional "group" .text,
    optional "readOnly" .flag,
    defaulted "registry" .text,
    optional "tenant" .text,
    optional "user" .text,
    defaulted "volume" .text]

/-- The `RBDVolumeSource` record. -/
def rbdVolumeSource : Shape :=
  .ofRows [
    optional "fsType" .text,
    defaulted "image" .text,
    optional "keyring" .text,
    defaulted "monitors" (.list .text),
    optional "pool" .text,
    optional "readOnly" .flag,
    optional "secretRef" localObjectReference,
    optional "user" .text]

/-- The `ScaleIOVolumeSource` record. -/
def scaleIOVolumeSource : Shape :=
  .ofRows [
    optional "fsType" .text,
    defaulted "gateway" .text,
    optional "protectionDomain" .text,
    optional "readOnly" .flag,
    defaulted "secretRef" localObjectReference,
    optional "sslEnabled" .flag,
    optional "storageMode" .text,
    optional "storagePool" .text,
    defaulted "system" .text,
    optional "volumeName" .text]

/-- The `SecretVolumeSource` record. -/
def secretVolumeSource : Shape :=
  .ofRows [
    optional "defaultMode" .int32,
    optional "items" (.list keyToPath),
    optional "optional" .flag,
    optional "secretName" .text]

/-- The `StorageOSVolumeSource` record. -/
def storageOSVolumeSource : Shape :=
  .ofRows [
    optional "fsType" .text,
    optional "readOnly" .flag,
    optional "secretRef" localObjectReference,
    optional "volumeName" .text,
    optional "volumeNamespace" .text]

/-- The `VsphereVirtualDiskVolumeSource` record. -/
def vsphereVirtualDiskVolumeSource : Shape :=
  .ofRows [
    optional "fsType" .text,
    optional "storagePolicyID" .text,
    optional "storagePolicyName" .text,
    defaulted "volumePath" .text]

/-- The `Volume` record. -/
def volume : Shape :=
  .ofRows [
    optional "awsElasticBlockStore" awsElasticBlockStoreVolumeSource,
    optional "azureDisk" azureDiskVolumeSource,
    optional "azureFile" azureFileVolumeSource,
    optional "cephfs" cephFSVolumeSource,
    optional "cinder" cinderVolumeSource,
    optional "configMap" configMapVolumeSource,
    optional "csi" csiVolumeSource,
    optional "downwardAPI" downwardAPIVolumeSource,
    optional "emptyDir" emptyDirVolumeSource,
    optional "ephemeral" ephemeralVolumeSource,
    optional "fc" fcVolumeSource,
    optional "flexVolume" flexVolumeSource,
    optional "flocker" flockerVolumeSource,
    optional "gcePersistentDisk" gcePersistentDiskVolumeSource,
    optional "gitRepo" gitRepoVolumeSource,
    optional "glusterfs" glusterfsVolumeSource,
    optional "hostPath" hostPathVolumeSource,
    optional "image" imageVolumeSource,
    optional "iscsi" iscsiVolumeSource,
    defaulted "name" .text,
    optional "nfs" nfsVolumeSource,
    optional "persistentVolumeClaim" persistentVolumeClaimVolumeSource,
    optional "photonPersistentDisk" photonPersistentDiskVolumeSource,
    optional "portworxVolume" portworxVolumeSource,
    optional "projected" projectedVolumeSource,
    optional "quobyte" quobyteVolumeSource,
    optional "rbd" rbdVolumeSource,
    optional "scaleIO" scaleIOVolumeSource,
    optional "secret" secretVolumeSource,
    optional "storageos" storageOSVolumeSource,
    optional "vsphereVolume" vsphereVirtualDiskVolumeSource]

end ChangeRelay.Catalog
