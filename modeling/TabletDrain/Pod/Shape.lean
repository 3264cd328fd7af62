import TabletDrain.Api.Metadata
import TabletDrain.Json.Shape

/-! The shape of the documents of pods, part by part. A pod that does not have it is not read at
all, although a drain looks at few of its parts. -/
namespace TabletDrain.Pod.Shape

open Json.Shape

def time : Json.Shape := ofReader Instant.ofJson

def metadata : Json.Shape := ofReader Metadata.ofJson

/-! ## Selectors and references -/

def localReference : Json.Shape := textRecord ["name"]

def requirements : Json.Shape :=
  list (record [("key", text), ("operator", text), ("values", texts)])

def labelSelector : Json.Shape :=
  record [("matchExpressions", requirements), ("matchLabels", textMap)]

def fieldReference : Json.Shape := textRecord ["apiVersion", "fieldPath"]

def resourceReference : Json.Shape := textRecord ["containerName", "divisor", "resource"]

def keyReference : Json.Shape := record [("key", text), ("name", text), ("optional", flag)]

def wholeReference : Json.Shape := record [("name", text), ("optional", flag)]

def namedValues : Json.Shape := list (textRecord ["name", "value"])

/-! ## Placement -/

def nodeTerm : Json.Shape :=
  record [("matchExpressions", requirements), ("matchFields", requirements)]

def podTerm : Json.Shape :=
  record [("labelSelector", labelSelector), ("matchLabelKeys", texts),
    ("mismatchLabelKeys", texts), ("namespaceSelector", labelSelector), ("namespaces", texts),
    ("topologyKey", text)]

def podAffinity : Json.Shape :=
  record [
    ("preferredDuringSchedulingIgnoredDuringExecution",
      list (record [("podAffinityTerm", podTerm), ("weight", int32)])),
    ("requiredDuringSchedulingIgnoredDuringExecution", list podTerm)]

def nodeAffinity : Json.Shape :=
  record [
    ("preferredDuringSchedulingIgnoredDuringExecution",
      list (record [("preference", nodeTerm), ("weight", int32)])),
    ("requiredDuringSchedulingIgnoredDuringExecution",
      record [("nodeSelectorTerms", list nodeTerm)])]

/-- Where the pod would rather run. -/
def affinity : Json.Shape :=
  record [("nodeAffinity", nodeAffinity), ("podAffinity", podAffinity),
    ("podAntiAffinity", podAffinity)]

def toleration : Json.Shape :=
  record [("effect", text), ("key", text), ("operator", text), ("tolerationSeconds", int64),
    ("value", text)]

def spread : Json.Shape :=
  record [("labelSelector", labelSelector), ("matchLabelKeys", texts), ("maxSkew", int32),
    ("minDomains", int32), ("nodeAffinityPolicy", text), ("nodeTaintsPolicy", text),
    ("topologyKey", text), ("whenUnsatisfiable", text)]

/-! ## Rights -/

def securityLabels : Json.Shape := textRecord ["level", "role", "type", "user"]

def profile : Json.Shape := textRecord ["localhostProfile", "type"]

def windowsOptions : Json.Shape :=
  record [("gmsaCredentialSpec", text), ("gmsaCredentialSpecName", text), ("hostProcess", flag),
    ("runAsUserName", text)]

def containerSecurity : Json.Shape :=
  record [("allowPrivilegeEscalation", flag), ("appArmorProfile", profile),
    ("capabilities", record [("add", texts), ("drop", texts)]), ("privileged", flag),
    ("procMount", text), ("readOnlyRootFilesystem", flag), ("runAsGroup", int64),
    ("runAsNonRoot", flag), ("runAsUser", int64), ("seLinuxOptions", securityLabels),
    ("seccompProfile", profile), ("windowsOptions", windowsOptions)]

def podSecurity : Json.Shape :=
  record [("appArmorProfile", profile), ("fsGroup", int64), ("fsGroupChangePolicy", text),
    ("runAsGroup", int64), ("runAsNonRoot", flag), ("runAsUser", int64),
    ("seLinuxOptions", securityLabels), ("seccompProfile", profile),
    ("supplementalGroups", list int64), ("sysctls", namedValues),
    ("windowsOptions", windowsOptions)]

/-! ## Containers -/

def settingSource : Json.Shape :=
  record [("configMapKeyRef", keyReference), ("fieldRef", fieldReference),
    ("resourceFieldRef", resourceReference), ("secretKeyRef", keyReference)]

def setting : Json.Shape := record [("name", text), ("value", text), ("valueFrom", settingSource)]

def environmentSource : Json.Shape :=
  record [("configMapRef", wholeReference), ("prefix", text), ("secretRef", wholeReference)]

def command : Json.Shape := record [("command", texts)]

def pageAction : Json.Shape :=
  record [("host", text), ("httpHeaders", namedValues), ("path", text), ("port", int32OrText),
    ("scheme", text)]

def connectAction : Json.Shape := record [("host", text), ("port", int32OrText)]

def handler : Json.Shape :=
  record [("exec", command), ("httpGet", pageAction), ("sleep", record [("seconds", int64)]),
    ("tcpSocket", connectAction)]

def probe : Json.Shape :=
  record [("exec", command), ("failureThreshold", int32),
    ("grpc", record [("port", int32), ("service", text)]), ("httpGet", pageAction),
    ("initialDelaySeconds", int32), ("periodSeconds", int32), ("successThreshold", int32),
    ("tcpSocket", connectAction), ("terminationGracePeriodSeconds", int64),
    ("timeoutSeconds", int32)]

def endpoint : Json.Shape :=
  record [("containerPort", int32), ("hostIP", text), ("hostPort", int32), ("name", text),
    ("protocol", text)]

def resources : Json.Shape :=
  record [("claims", list (textRecord ["name"])), ("limits", textMap), ("requests", textMap)]

def mount : Json.Shape :=
  record [("mountPath", text), ("mountPropagation", text), ("name", text), ("readOnly", flag),
    ("recursiveReadOnly", text), ("subPath", text), ("subPathExpr", text)]

def containerFields : List (String × Json.Shape) :=
  [("args", texts), ("command", texts), ("env", list setting),
    ("envFrom", list environmentSource), ("image", text), ("imagePullPolicy", text),
    ("lifecycle", record [("postStart", handler), ("preStop", handler)]),
    ("livenessProbe", probe), ("name", text), ("ports", list endpoint), ("readinessProbe", probe),
    ("resizePolicy", list (textRecord ["resourceName", "restartPolicy"])),
    ("resources", resources), ("restartPolicy", text), ("securityContext", containerSecurity),
    ("startupProbe", probe), ("stdin", flag), ("stdinOnce", flag),
    ("terminationMessagePath", text), ("terminationMessagePolicy", text), ("tty", flag),
    ("volumeDevices", list (textRecord ["devicePath", "name"])), ("volumeMounts", list mount),
    ("workingDir", text)]

def container : Json.Shape := record containerFields

def ephemeralContainer : Json.Shape := record (("targetContainerName", text) :: containerFields)

/-! ## Volumes -/

def files : Json.Shape := list (record [("key", text), ("mode", int32), ("path", text)])

def descriptionFiles : Json.Shape :=
  list (record [("fieldRef", fieldReference), ("mode", int32), ("path", text),
    ("resourceFieldRef", resourceReference)])

def volumeClaim : Json.Shape :=
  record [("accessModes", texts), ("dataSource", textRecord ["apiGroup", "kind", "name"]),
    ("dataSourceRef", textRecord ["apiGroup", "kind", "name", "namespace"]),
    ("resources", record [("limits", textMap), ("requests", textMap)]),
    ("selector", labelSelector), ("storageClassName", text),
    ("volumeAttributesClassName", text), ("volumeMode", text), ("volumeName", text)]

def projection : Json.Shape :=
  record [
    ("clusterTrustBundle",
      record [("labelSelector", labelSelector), ("name", text), ("optional", flag),
        ("path", text), ("signerName", text)]),
    ("configMap", record [("items", files), ("name", text), ("optional", flag)]),
    ("downwardAPI", record [("items", descriptionFiles)]),
    ("secret", record [("items", files), ("name", text), ("optional", flag)]),
    ("serviceAccountToken",
      record [("audience", text), ("expirationSeconds", int64), ("path", text)])]

def clusterVolumes : List (String × Json.Shape) :=
  [("configMap",
      record [("defaultMode", int32), ("items", files), ("name", text), ("optional", flag)]),
    ("csi",
      record [("driver", text), ("fsType", text), ("nodePublishSecretRef", localReference),
        ("readOnly", flag), ("volumeAttributes", textMap)]),
    ("downwardAPI", record [("defaultMode", int32), ("items", descriptionFiles)]),
    ("emptyDir", textRecord ["medium", "sizeLimit"]),
    ("ephemeral",
      record [("volumeClaimTemplate", record [("metadata", metadata), ("spec", volumeClaim)])]),
    ("gitRepo", textRecord ["directory", "repository", "revision"]),
    ("hostPath", textRecord ["path", "type"]),
    ("persistentVolumeClaim", record [("claimName", text), ("readOnly", flag)]),
    ("projected", record [("defaultMode", int32), ("sources", list projection)]),
    ("secret",
      record [("defaultMode", int32), ("items", files), ("optional", flag),
        ("secretName", text)])]

def foreignVolumes : List (String × Json.Shape) :=
  [("awsElasticBlockStore",
      record [("fsType", text), ("partition", int32), ("readOnly", flag), ("volumeID", text)]),
    ("azureDisk",
      record [("cachingMode", text), ("diskName", text), ("diskURI", text), ("fsType", text),
        ("kind", text), ("readOnly", flag)]),
    ("azureFile", record [("readOnly", flag), ("secretName", text), ("shareName", text)]),
    ("cephfs",
      record [("monitors", texts), ("path", text), ("readOnly", flag), ("secretFile", text),
        ("secretRef", localReference), ("user", text)]),
    ("cinder",
      record [("fsType", text), ("readOnly", flag), ("secretRef", localReference),
        ("volumeID", text)]),
    ("fc",
      record [("fsType", text), ("lun", int32), ("readOnly", flag), ("targetWWNs", texts),
        ("wwids", texts)]),
    ("flexVolume",
      record [("driver", text), ("fsType", text), ("options", textMap), ("readOnly", flag),
        ("secretRef", localReference)]),
    ("flocker", textRecord ["datasetName", "datasetUUID"]),
    ("gcePersistentDisk",
      record [("fsType", text), ("partition", int32), ("pdName", text), ("readOnly", flag)]),
    ("glusterfs", record [("endpoints", text), ("path", text), ("readOnly", flag)]),
    ("iscsi",
      record [("chapAuthDiscovery", flag), ("chapAuthSession", flag), ("fsType", text),
        ("initiatorName", text), ("iqn", text), ("iscsiInterface", text), ("lun", int32),
        ("portals", texts), ("readOnly", flag), ("secretRef", localReference),
        ("targetPortal", text)]),
    ("nfs", record [("path", text), ("readOnly", flag), ("server", text)]),
    ("photonPersistentDisk", textRecord ["fsType", "pdID"]),
    ("portworxVolume", record [("fsType", text), ("readOnly", flag), ("volumeID", text)]),
    ("quobyte",
      record [("group", text), ("readOnly", flag), ("registry", text), ("tenant", text),
        ("user", text), ("volume", text)]),
    ("rbd",
      record [("fsType", text), ("image", text), ("keyring", text), ("monitors", texts),
        ("pool", text), ("readOnly", flag), ("secretRef", localReference), ("user", text)]),
    ("scaleIO",
      record [("fsType", text), ("gateway", text), ("protectionDomain", text),
        ("readOnly", flag), ("secretRef", localReference), ("sslEnabled", flag),
        ("storageMode", text), ("storagePool", text), ("system", text), ("volumeName", text)]),
    ("storageos",
      record [("fsType", text), ("readOnly", flag), ("secretRef", localReference),
        ("volumeName", text), ("volumeNamespace", text)]),
    ("vsphereVolume",
      textRecord ["fsType", "storagePolicyID", "storagePolicyName", "volumePath"])]

def volume : Json.Shape := record (("name", text) :: (clusterVolumes ++ foreignVolumes))

/-! ## The pod -/

def nameService : Json.Shape :=
  record [("nameservers", texts), ("options", namedValues), ("searches", texts)]

def resourceClaim : Json.Shape :=
  record [("name", text),
    ("source", textRecord ["resourceClaimName", "resourceClaimTemplateName"])]

def spec : Json.Shape :=
  record [("activeDeadlineSeconds", int64), ("affinity", affinity),
    ("automountServiceAccountToken", flag), ("containers", list container),
    ("dnsConfig", nameService), ("dnsPolicy", text), ("enableServiceLinks", flag),
    ("ephemeralContainers", list ephemeralContainer),
    ("hostAliases", list (record [("hostnames", texts), ("ip", text)])), ("hostIPC", flag),
    ("hostNetwork", flag), ("hostPID", flag), ("hostUsers", flag), ("hostname", text),
    ("imagePullSecrets", list localReference), ("initContainers", list container),
    ("nodeName", text), ("nodeSelector", textMap), ("os", textRecord ["name"]),
    ("overhead", textMap), ("preemptionPolicy", text), ("priority", int32),
    ("priorityClassName", text), ("readinessGates", list (textRecord ["conditionType"])),
    ("resourceClaims", list resourceClaim), ("restartPolicy", text), ("runtimeClassName", text),
    ("schedulerName", text), ("schedulingGates", list (textRecord ["name"])),
    ("securityContext", podSecurity), ("serviceAccount", text), ("serviceAccountName", text),
    ("setHostnameAsFQDN", flag), ("shareProcessNamespace", flag), ("subdomain", text),
    ("terminationGracePeriodSeconds", int64), ("tolerations", list toleration),
    ("topologySpreadConstraints", list spread), ("volumes", list volume)]

def containerState : Json.Shape :=
  record [("running", record [("startedAt", time)]),
    ("terminated",
      record [("containerID", text), ("exitCode", int32), ("finishedAt", time),
        ("message", text), ("reason", text), ("signal", int32), ("startedAt", time)]),
    ("waiting", textRecord ["message", "reason"])]

def containerStatus : Json.Shape :=
  record [("allocatedResources", textMap), ("containerID", text), ("image", text),
    ("imageID", text), ("lastState", containerState), ("name", text), ("ready", flag),
    ("resources", resources), ("restartCount", int32), ("started", flag),
    ("state", containerState),
    ("volumeMounts",
      list (record [("mountPath", text), ("name", text), ("readOnly", flag),
        ("recursiveReadOnly", text)]))]

def condition : Json.Shape :=
  record [("lastProbeTime", time), ("lastTransitionTime", time), ("message", text),
    ("reason", text), ("status", text), ("type", text)]

def status : Json.Shape :=
  record [("conditions", list condition), ("containerStatuses", list containerStatus),
    ("ephemeralContainerStatuses", list containerStatus), ("hostIP", text),
    ("hostIPs", list (textRecord ["ip"])), ("initContainerStatuses", list containerStatus),
    ("message", text), ("nominatedNodeName", text), ("phase", text), ("podIP", text),
    ("podIPs", list (textRecord ["ip"])), ("qosClass", text), ("reason", text), ("resize", text),
    ("resourceClaimStatuses", list (textRecord ["name", "resourceClaimName"])),
    ("startTime", time)]

end TabletDrain.Pod.Shape
