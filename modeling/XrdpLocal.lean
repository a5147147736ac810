import XrdpLocal.Library.Machine
import XrdpLocal.Library.Delivery
import XrdpLocal.Xup.Events
import XrdpLocal.Xup.InputPath
import XrdpLocal.Xup.InputOrder
import XrdpLocal.Xup.Locking
import XrdpLocal.Qt.State
import XrdpLocal.DmaBuf.Callbacks
import XrdpLocal.DmaBuf.Protocol
import XrdpLocal.Library.Handoff
import XrdpLocal.Threads.Model
import XrdpLocal.Threads.Steps
import XrdpLocal.Threads.Painting
import XrdpLocal.Threads.Shutdown
import XrdpLocal.Threads.Startup
import XrdpLocal.Library.CInt
import XrdpLocal.Library.RunningMax
import XrdpLocal.Library.Loops
import XrdpLocal.Qt.Screens
import XrdpLocal.Xup.ClientInfo
import XrdpLocal.Xup.Displays
import XrdpLocal.Qt.Ownership
import XrdpLocal.Xup.Keyboard
import XrdpLocal.Library.Bytes
import XrdpLocal.Library.Raster
import XrdpLocal.Qt.Cursor
import XrdpLocal.Qt.CursorImage
import XrdpLocal.Qt.CursorBounds
import XrdpLocal.Qt.CursorArithmetic
import XrdpLocal.Library.Ledger
import XrdpLocal.Qt.Egl
import XrdpLocal.Qt.EglResources
import XrdpLocal.Library.Overlay
import XrdpLocal.Qt.Painting
import XrdpLocal.Library.CString
import XrdpLocal.Library.Trace
import XrdpLocal.Xup.Libxup
import XrdpLocal.Qt.Fallback
import XrdpLocal.Threads.Frames
import XrdpLocal.Threads.Exceptions
import XrdpLocal.Threads.Progress
import XrdpLocal.Threads.Display
import XrdpLocal.Threads.Screen
import XrdpLocal.Library.Texture
import XrdpLocal.Qt.OpenGL
import XrdpLocal.Qt.Render
import XrdpLocal.Library.Keys
import XrdpLocal.Qt.Input
import XrdpLocal.Qt.Mirror
import XrdpLocal.DmaBuf.SharedDisplay
import XrdpLocal.DmaBuf.PaintDisplay
import XrdpLocal.Xup.Feedback
import XrdpLocal.Xup.Construction
import XrdpLocal.Threads.Request
import XrdpLocal.Qt.DisplayName
