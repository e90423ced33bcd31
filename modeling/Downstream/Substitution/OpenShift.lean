import Downstream.Substitution.Table

/-!
# The built-in substitutions

The files that a freshly scaffolded operator project has, and the references in them that OpenShift
replaces: base images, the proxy image, and the versions of Go and of its network library.
-/

namespace Downstream.OpenShift

/-- The OpenShift release whose images are used. -/
def productVersion : String := "4.14"

/-- The version of the minimal base images. -/
def baseImageVersion : String := "8.8"

/-- The patch that adds the authorization proxy. -/
def authProxyPatchPath : String := "config/default/manager_auth_proxy_patch.yaml"

/-- The file that images are built from. -/
def dockerfilePath : String := "Dockerfile"

/-- The file of the Go module. -/
def goModPath : String := "go.mod"

/-- The pattern of an image tag or a module version: all up to a blank or a quote. -/
def tagPattern : String := "[^\\s\"']+"

/-- The rule of the authorization proxy. -/
def authProxyRules : List (String × String) :=
  [("gcr\\.io/kubebuilder/kube-rbac-proxy:" ++ tagPattern,
    "registry.redhat.io/openshift4/ose-kube-rbac-proxy:v" ++ productVersion)]

/-- The rules of the base images of operators, in the order Ansible, Helm, Go, and Helm with Go. -/
def dockerfileRules : List (String × String) :=
  [("quay\\.io/operator-framework/ansible-operator:" ++ tagPattern,
    "registry.redhat.io/openshift4/ose-ansible-operator:v" ++ productVersion),
   ("quay\\.io/operator-framework/helm-operator:" ++ tagPattern,
    "registry.redhat.io/openshift4/ose-helm-operator:v" ++ productVersion),
   ("gcr\\.io/distroless/static:" ++ tagPattern,
    "registry.access.redhat.com/ubi8/ubi-minimal:" ++ baseImageVersion),
   ("golang:" ++ tagPattern, "golang:1.20"),
   ("registry\\.access\\.redhat\\.com/ubi8/ubi-micro:" ++ tagPattern,
    "registry.access.redhat.com/ubi8/ubi-micro:" ++ baseImageVersion)]

/-- The rules of the Go module file: the network library, then the version of Go. -/
def goModRules : List (String × String) :=
  [("golang\\.org/x/net v" ++ tagPattern, "golang.org/x/net v0.17.0"),
   ("go 1\\.1?[0-9](?:\\.[0-9]+)?\\b", "go 1.20")]

/-- The built-in rules of each file. -/
def files : List (String × List (String × String)) :=
  [(authProxyPatchPath, authProxyRules),
   (dockerfilePath, dockerfileRules),
   (goModPath, goModRules)]

/-- The built-in table. All its patterns are patterns, so no entry is left out. -/
def table : Table :=
  files.foldl (fun t (path, pairs) =>
    match t.insertCompiled path pairs with
    | .ok t => t
    | .error _ => t) Table.empty

end Downstream.OpenShift
