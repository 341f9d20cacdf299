import Boringtun.Lib.Endian
import Boringtun.Lib.Loop
import Boringtun.Lib.ReplayWindow
import Boringtun.Lib.Word
import Boringtun.Lib.Text
import Boringtun.Lib.Base64
import Boringtun.Noise.Errors
import Boringtun.Noise.Counter
import Boringtun.Noise.Crypto
import Boringtun.Noise.Packet
import Boringtun.Noise.Session
import Boringtun.Noise.Handshake
import Boringtun.Noise.Agreement
import Boringtun.Noise.RateLimiter
import Boringtun.Noise.Messages
import Boringtun.Noise.Timers
import Boringtun.Noise.Tunn
import Boringtun.Noise.TunnTimers
import Boringtun.Noise.NoPanic
import Boringtun.Noise.Transport
import Boringtun.Serialization
import Boringtun.KeyText
import Boringtun.Export
import Boringtun.Device.IndexLfsr
import Boringtun.Lib.Table
import Boringtun.Device.AllowedIps
import Boringtun.Device.Peer
import Boringtun.Device.Device
import Boringtun.Noise.HandshakeRun
import Boringtun.Noise.TunnRun
import Boringtun.Noise.TunnExchange
import Boringtun.Noise.Clocked
import Boringtun.Noise.Sending
import Boringtun.Noise.Queue
import Boringtun.Sleepyinstant
import Boringtun.Device.Routing
import Boringtun.Noise.Retransmit
import Boringtun.Noise.CookieExpiry
import Boringtun.Device.Flush
import Boringtun.Device.Handlers
import Boringtun.Noise.Outcomes
import Boringtun.Device.DataPlane
import Boringtun.Device.Events
import Boringtun.Device.Api
import Boringtun.Device.ApiLines
