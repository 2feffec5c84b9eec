import OpenDnp3.App.DeviceAttributes
import OpenDnp3.Link.BurstErrors
import OpenDnp3.Link.IOHandler
import OpenDnp3.Link.ParserSafety
import OpenDnp3.Link.SecondaryStation
import OpenDnp3.Master.CommandSet
import OpenDnp3.Master.Delivery
import OpenDnp3.Master.FileRead
import OpenDnp3.Master.Integrity
import OpenDnp3.Master.SerialTimeSync
import OpenDnp3.Outstation.Broadcast
import OpenDnp3.Outstation.ClassSelection
import OpenDnp3.Outstation.CommandEcho
import OpenDnp3.Outstation.Control
import OpenDnp3.Outstation.EventHistory
import OpenDnp3.Outstation.FileObjects
import OpenDnp3.Outstation.ForeignMessages
import OpenDnp3.Outstation.NodeList
import OpenDnp3.Outstation.RangeOperations
import OpenDnp3.Outstation.RelativeTimes
import OpenDnp3.Outstation.Repetition
import OpenDnp3.Outstation.StaticIterators
import OpenDnp3.Outstation.Unsolicited
import OpenDnp3.SecAuth.AggressiveMode
import OpenDnp3.SecAuth.ChallengeState
import OpenDnp3.SecAuth.KeyChange
import OpenDnp3.SecAuth.KeyWrap
import OpenDnp3.Transport.Reassembly
