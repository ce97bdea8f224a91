import ChangeRelay.Schema.Shape

/-!
# Security settings

The security settings of pods and containers.
-/

namespace ChangeRelay.Catalog

open Schema

/-- The `AppArmorProfile` record. -/
def appArmorProfile : Shape :=
  .ofRows [
    optional "localhostProfile" .text,
    defaulted "type" .text]

/-- The `Capabilities` record. -/
def capabilities : Shape :=
  .ofRows [
    optional "add" (.list .text),
    optional "drop" (.list .text)]

/-- The `SELinuxOptions` record. -/
def seLinuxOptions : Shape :=
  .ofRows [
    optional "level" .text,
    optional "role" .text,
    optional "type" .text,
    optional "user" .text]

/-- The `SeccompProfile` record. -/
def seccompProfile : Shape :=
  .ofRows [
    optional "localhostProfile" .text,
    defaulted "type" .text]

/-- The `WindowsSecurityContextOptions` record. -/
def windowsSecurityContextOptions : Shape :=
  .ofRows [
    optional "gmsaCredentialSpec" .text,
    optional "gmsaCredentialSpecName" .text,
    optional "hostProcess" .flag,
    optional "runAsUserName" .text]

/-- The `SecurityContext` record. -/
def securityContext : Shape :=
  .ofRows [
    optional "allowPrivilegeEscalation" .flag,
    optional "appArmorProfile" appArmorProfile,
    optional "capabilities" capabilities,
    optional "privileged" .flag,
    optional "procMount" .text,
    optional "readOnlyRootFilesystem" .flag,
    optional "runAsGroup" .int64,
    optional "runAsNonRoot" .flag,
    optional "runAsUser" .int64,
    optional "seLinuxOptions" seLinuxOptions,
    optional "seccompProfile" seccompProfile,
    optional "windowsOptions" windowsSecurityContextOptions]

end ChangeRelay.Catalog
