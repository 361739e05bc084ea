import RuffleAvm.Basic
import RuffleAvm.DispatchList
import RuffleAvm.DispatchLog
import RuffleAvm.EventDispatch
import RuffleAvm.Multiname
import RuffleAvm.Value
import RuffleAvm.Json.Value
import RuffleAvm.Json.Serialize
import RuffleAvm.Json.Parse
import RuffleAvm.Avm1Function
import RuffleAvm.Dictionary
import RuffleAvm.Vector
import RuffleAvm.VectorSort
import RuffleAvm.QName
import RuffleAvm.Avm1DisplayObject
import RuffleAvm.Stage.Settings
import RuffleAvm.Stage.Operations
import RuffleAvm.Json.Revive
import RuffleAvm.VectorCallbacks
import RuffleAvm.Json.Stringify
import RuffleAvm.Desktop.EventLoop
import RuffleAvm.VectorNatives
import RuffleAvm.Sprite
import RuffleAvm.Avm1FunctionObject
