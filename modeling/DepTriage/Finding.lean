import DepTriage.GlobalUsage
import DepTriage.Severity

/-! # Findings

A finding is what one rule has to say about one version of a package. -/

namespace DepTriage

/-- The rules, in the order in which they are applied. -/
inductive Rule where
  | freshness
  | popularity
  | dangerousGlobals
  | obfuscation
  | keyword
deriving DecidableEq, Repr, Inhabited

namespace Rule

def label : Rule → String
  | freshness => "freshness"
  | popularity => "popularity"
  | dangerousGlobals => "dangerous-globals"
  | obfuscation => "obfuscation"
  | keyword => "keyword"

def all : List Rule :=
  [freshness, popularity, dangerousGlobals, obfuscation, keyword]

def ofLabel? (label : String) : Option Rule :=
  all.find? (·.label == label)

end Rule

/-- What a dangerous global makes possible. -/
inductive Capability where
  | network
  | dom
  | codeExecution
  | localStorage
  | extensionApi
deriving DecidableEq, Repr, Inhabited

namespace Capability

def id : Capability → String
  | network => "network"
  | dom => "dom"
  | codeExecution => "code-execution"
  | localStorage => "local-storage"
  | extensionApi => "extension-api"

def all : List Capability :=
  [network, dom, codeExecution, localStorage, extensionApi]

def ofId? (id : String) : Option Capability :=
  all.find? (·.id == id)

def label : Capability → String
  | network => "network request"
  | dom => "DOM access"
  | codeExecution => "dynamic code execution"
  | localStorage => "local storage"
  | extensionApi => "chrome extension API"

def description : Capability → String
  | network => "can send network requests, possibly exfiltrating data"
  | dom => "can read sensitive page content such as wallet mnemonics"
  | codeExecution => "can execute arbitrary code"
  | localStorage => "can read data the user stored locally"
  | extensionApi => "can call browser extension APIs"

end Capability

structure FlaggedGlobal where
  name : String
  access : Access
  capability : Capability
deriving DecidableEq, Repr, Inhabited

structure Finding where
  rule : Rule
  severity : Severity
  description : String
  evidence : String
  flagged : List FlaggedGlobal := []
deriving DecidableEq, Repr, Inhabited

end DepTriage
