import MeshRoom.Json.Decode

/-!
# Plugin messages

A server lists its plugins by descriptors. The version to load is the installed one, unless that
only says `latest`; then it is the first concrete one among those advertised.
-/

namespace MeshRoom.Wire

open Json

/-- The version that stands for whatever is newest. -/
def latestVersion : String := "latest"

/-- Whether a version names one version. -/
def isConcrete (version : String) : Bool := !version.isEmpty && version != latestVersion

/-- One plugin of a server's list. It is not installed if its installed version is empty. -/
structure PluginDescriptor where
  name : String := ""
  versions : List String := []
  latest : Option String := none
  installedVersion : String := ""
  description : Value := .null
  optional : Bool := false
  hasModule : Bool := false
deriving DecidableEq

namespace PluginDescriptor

def isInstalled (d : PluginDescriptor) : Bool := !d.installedVersion.isEmpty

/-- The concrete version to load, if there is one. -/
def resolvedVersion? (d : PluginDescriptor) : Option String :=
  if d.installedVersion = latestVersion then
    (d.latest.toList ++ d.versions).find? isConcrete
  else if d.isInstalled then some d.installedVersion
  else none

def document (d : PluginDescriptor) : Document :=
  .record [
    .always "name" (.string d.name),
    .always "versions" (.array (d.versions.map .string)),
    .given "latest" .string d.latest,
    .always "installedVersion" (.string d.installedVersion),
    .always "description" (.value d.description),
    .always "optional" (.bool d.optional),
    .always "hasModuleJS" (.bool d.hasModule)]

def decoder : Decoder PluginDescriptor := fun room t => do
  let r ← Record.open? 7 room t
  let name ← r.optional 0 ["name"] .string ""
  let versions ← r.optional 1 ["versions"] (.list .string) []
  let latest ← r.optional 2 ["latest"] (.nullable .string) none
  let installedVersion ← r.optional 3 ["installedVersion"] .string ""
  let description ← r.optional 4 ["description"] .value .null
  let optional ← r.optional 5 ["optional"] .bool false
  let hasModule ← r.optional 6 ["hasModuleJS"] .bool false
  some ⟨name, versions, latest, installedVersion, description, optional, hasModule⟩

/-- A descriptor listed under a name takes it if it has none of its own. -/
def named (name : String) (d : PluginDescriptor) : PluginDescriptor :=
  if d.name.isEmpty then { d with name } else d

/-- The descriptors of a listing: an object by plugin name, in its order, or an array. -/
def listOfValue? : Value → Option (List PluginDescriptor)
  | .object members => members.mapM fun (name, v) => (decoder.onValue v).map (named name)
  | v => (Decoder.list decoder).onValue v

end PluginDescriptor

/-- A version chosen for a plugin. -/
structure PluginSelection where
  name : String
  version : String
deriving DecidableEq, Repr

namespace PluginSelection

def document (s : PluginSelection) : Document :=
  .record [.always "name" (.string s.name), .always "version" (.string s.version)]

def decoder : Decoder PluginSelection := fun room t => do
  let r ← Record.open? 2 room t
  let name ← r.required 0 ["name"] .string
  let version ← r.required 1 ["version"] .string
  some ⟨name, version⟩

end PluginSelection

end MeshRoom.Wire
