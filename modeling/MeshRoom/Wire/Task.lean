/-!
# Task names

The tasks that clients and servers of a room name in envelopes and request paths.
-/

namespace MeshRoom.Wire.Task

def initializeSession : String := "initializeSession"
def isServerBusy : String := "isServerBusy"
def forceReload : String := "forceReload"
def syncMeshes : String := "syncMeshes"
def syncParams : String := "syncParams"
def syncCursor : String := "syncCursor"
def loadPolygonMesh : String := "loadPolygonMesh"
def undo : String := "undo"
def redo : String := "redo"
def toggleMeshVisibility : String := "toggleMeshVisibility"
def meshErrorInfo : String := "meshErrorInfo"
def listPlugins : String := "listPlugins"
def updatePlugins : String := "updatePlugins"
def pullCanvasParameters : String := "pullCanvasParameters"
def pullCurrentMeshes : String := "pullCurrentMeshes"

end MeshRoom.Wire.Task
