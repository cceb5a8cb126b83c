import SandboxPolicy.Text.Quoted

/-!
The filters that a policy can use: their names, their numbers in compiled profiles and the kind of
argument that each takes.
-/

namespace SandboxPolicy

/-- How the argument of a filter is written and matched. -/
inductive ArgumentKind where
  | path
  | regex
  | name
  | keyword (values : List String)
  | address
  | entitlement
deriving Repr, DecidableEq, Inhabited

def ArgumentKind.render : ArgumentKind → String
  | .path => "Path"
  | .regex => "Regex"
  | .name => "Name"
  | .keyword values => "Keyword([" ++ ", ".intercalate (values.map quoted) ++ "])"
  | .address => "Address"
  | .entitlement => "Entitlement"

structure FilterDef where
  name : String
  id : UInt8
  kind : ArgumentKind
deriving Repr, DecidableEq, Inhabited

namespace Catalogue

def vnodeTypes : List String :=
  ["REGULAR-FILE", "DIRECTORY", "SYMLINK", "CHARACTER-DEVICE", "BLOCK-DEVICE", "SOCKET", "FIFO"]

def signalTargets : List String := ["self", "same-sandbox", "children", "pgrp", "others"]

def socketDomains : List String := ["AF_UNIX", "AF_INET", "AF_INET6", "AF_SYSTEM", "AF_ROUTE"]

def filters : List FilterDef :=
  [⟨"literal", 0x01, .path⟩,
   ⟨"subpath", 0x02, .path⟩,
   ⟨"prefix", 0x03, .path⟩,
   ⟨"regex", 0x04, .regex⟩,
   ⟨"vnode-type", 0x05, .keyword vnodeTypes⟩,
   ⟨"global-name", 0x06, .name⟩,
   ⟨"local-name", 0x07, .name⟩,
   ⟨"xpc-service-name", 0x08, .name⟩,
   ⟨"ipc-posix-name", 0x09, .name⟩,
   ⟨"sysctl-name", 0x0a, .name⟩,
   ⟨"iokit-user-client-class", 0x0b, .name⟩,
   ⟨"preference-domain", 0x0c, .name⟩,
   ⟨"appleevent-destination", 0x0d, .name⟩,
   ⟨"right-name", 0x0e, .name⟩,
   ⟨"target", 0x0f, .keyword signalTargets⟩,
   ⟨"socket-domain", 0x10, .keyword socketDomains⟩,
   ⟨"remote", 0x11, .address⟩,
   ⟨"local", 0x12, .address⟩,
   ⟨"entitlement-is-present", 0x13, .entitlement⟩,
   ⟨"process-path", 0x14, .path⟩]

def byName? (name : String) : Option FilterDef := filters.find? fun filter => filter.name = name

def byId? (id : UInt8) : Option FilterDef := filters.find? fun filter => filter.id = id

def names : List String := filters.map FilterDef.name

end Catalogue

end SandboxPolicy
