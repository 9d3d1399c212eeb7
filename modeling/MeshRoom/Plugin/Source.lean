import MeshRoom.Table

/-!
# Modules of plugins

A plugin's module is found by the path of its version, or else by its name alone. A module
registered again replaces the earlier one.
-/

namespace MeshRoom

/-- The version of a plugin to load. -/
structure ModuleSpec where
  name : String
  version : String
deriving DecidableEq, Repr

/-- Where the module of a version lies. -/
def ModuleSpec.path (s : ModuleSpec) : String :=
  "plugin/" ++ s.name ++ "_" ++ s.version ++ "/module.js"

/-- Modules by path and by plugin name. -/
structure ModuleSource (M : Type) where
  byPath : Table M := ∅
  byName : Table M := ∅

namespace ModuleSource

variable {M : Type}

/-- Register a module for every version of a plugin. -/
def register (s : ModuleSource M) (name : String) (m : M) : ModuleSource M :=
  { s with byName := s.byName.insert name m }

/-- Register a module for one version of a plugin. -/
def registerVersion (s : ModuleSource M) (spec : ModuleSpec) (m : M) : ModuleSource M :=
  { s with byPath := s.byPath.insert spec.path m }

/-- The module to load. -/
def find? (s : ModuleSource M) (spec : ModuleSpec) : Option M :=
  s.byPath[spec.path]? <|> s.byName[spec.name]?

end ModuleSource

end MeshRoom
