import WebrtcSample.Lib.Automaton
import WebrtcSample.Lib.Channel
import WebrtcSample.Lib.Effect
import WebrtcSample.Lib.Exchange
import WebrtcSample.Lib.Fifo
import WebrtcSample.Lib.Json
import WebrtcSample.Lib.Simulation
import WebrtcSample.Lib.Utf16
import WebrtcSample.Util.JsonUtils
import WebrtcSample.Util.Ice
import WebrtcSample.Util.IceDocument
import WebrtcSample.Util.Endpoint
import WebrtcSample.Util.WebRtcManager
import WebrtcSample.Util.Signal
import WebrtcSample.Process
import WebrtcSample.Server
import WebrtcSample.Client
import WebrtcSample.JsClient
import WebrtcSample.Codec
import WebrtcSample.Handshake
import WebrtcSample.Session
import WebrtcSample.Dialogue
import WebrtcSample.Agreement
import WebrtcSample.Candidates
import WebrtcSample.Closing
import WebrtcSample.Pointers
import WebrtcSample.Isolation
import WebrtcSample.Lifetime
import WebrtcSample.Payloads
import WebrtcSample.Channels
import WebrtcSample.Chat
import WebrtcSample.Clients
import WebrtcSample.JsEcho
import WebrtcSample.Echo
import WebrtcSample.Endings
import WebrtcSample.Survival
import WebrtcSample.Reuse
import WebrtcSample.Rendezvous
import WebrtcSample.Delivery
import WebrtcSample.Browser
import WebrtcSample.PageSession
import WebrtcSample.PageEcho
import WebrtcSample.Echoes
import WebrtcSample.Timing
