import MeshRoom.Plugin.Entry

/-!
# Events

What a client tells the interface it is embedded in.
-/

namespace MeshRoom

/-- Something the interface reacts to. -/
inductive Event where
  | sessionAssigned (id : String)
  | serverBusy (busy : Bool)
  | reloadRequested
  | disconnected (reason : String)
  | requestFailed (task message : String)
  | pluginFailed (name message : String)
  | pluginsLoaded (names : List String)
  | entryUpdated (entry : MeshEntry)
  | entryRemoved (uuid : String)
  | ready
deriving DecidableEq

end MeshRoom
