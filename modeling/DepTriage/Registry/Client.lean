import DepTriage.Config
import DepTriage.Http.Client
import DepTriage.Scan.Source

/-! # The registry over HTTP -/

namespace DepTriage

variable {m : Type → Type} [Monad m]

namespace RegistrySettings

/-- The name of the registry that is asked. -/
def registryName : String :=
  "npm"

def retryPolicy (s : RegistrySettings) : RetryPolicy :=
  .ofAttempts s.maxRetries

def headers : List (String × String) :=
  [("accept", "*/*")]

/-- The registry of the settings. Documents are asked for again after transient failures, archives
are not. -/
def registry (s : RegistrySettings) (http : Http.Transport m) : PackageRegistry m where
  metadata name :=
    s.retryPolicy.run http.wait <| http.fetchDocument s!"package {name}"
      s!"{baseUrl s.registryUrl}/{escapeName name}" headers PackageMetadata.ofJson?
  downloads name period :=
    s.retryPolicy.run http.wait <| http.fetchDocument s!"download stats for {name}"
      s!"{baseUrl s.downloadsUrl}/point/{period.label}/{name}" headers DownloadStats.ofJson?
  tarball url := http.fetch url url headers

end RegistrySettings

end DepTriage
