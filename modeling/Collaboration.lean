import Collaboration.Library.Transition
import Collaboration.Library.ServiceOrder
import Collaboration.Model.Utils
import Collaboration.Model.Objects
import Collaboration.Sender.Order
import Collaboration.Sender.Bookkeeping
import Collaboration.Sender.Stopping
import Collaboration.Authorize.Decision
import Collaboration.Authorize.KnownDevices
import Collaboration.Authorize.DeviceInfo
import Collaboration.Authorize.KnownDeviceSaver
import Collaboration.Authorize.RememberedDevices
import Collaboration.Client.Invariant
import Collaboration.Protocol.Handling
import Collaboration.Protocol.JsonAdhesive
import Collaboration.Session.Agreement
import Collaboration.Session.Heartbeats
import Collaboration.Session.Objects
import Collaboration.Server.Broadcast
import Collaboration.Server.Acceptance
import Collaboration.Server.Registration
import Collaboration.Server.AcceptLoop
import Collaboration.Server.PoolOrder
import Collaboration.Lifecycle.Restart
import Collaboration.Lifecycle.Announcements
import Collaboration.Lifecycle.LocalNetwork
import Collaboration.Reading.Trace
import Collaboration.Reading.Release
import Collaboration.Reading.LastMessages
import Collaboration.Phone.Answering
import Collaboration.Phone.IdleReports
import Collaboration.Phone.CallObjects
import Collaboration.Phone.MsgListener
import Collaboration.Phone.AttachedWindows
import Collaboration.Phone.AnsweredCalls
import Collaboration.Phone.StatusLabels
import Collaboration.Phone.Detaching
import Collaboration.Process.PhoneListener
import Collaboration.Process.PhoneStateListener
import Collaboration.Process.ModuleNames
import Collaboration.Voice.MainActivity
import Collaboration.Threads.Entering
import Collaboration.Media.RingBuffer
import Collaboration.Media.PacketBuffer
import Collaboration.Media.AudioFocus
import Collaboration.Media.FecHoles
import Collaboration.Media.FecDelivery
import Collaboration.Media.VideoTransmission
