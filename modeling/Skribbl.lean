import Skribbl.Lib.Json
import Skribbl.Lib.FilterKeys
import Skribbl.Lib.Text
import Skribbl.Lib.Coroutine
import Skribbl.Lib.EventLoop
import Skribbl.Lib.Cancellation
import Skribbl.Lib.Execution
import Skribbl.Lib.Uninterrupted
import Skribbl.Lib.Guarantee
import Skribbl.Lib.Partitioned
import Skribbl.Lib.TimedCache
import Skribbl.Lib.LastEvent
import Skribbl.Lib.Rotation
import Skribbl.Lib.Books
import Skribbl.Frontend.BinaryDrawing
import Skribbl.Frontend.StrokeBatching
import Skribbl.Gateway.WritePump
import Skribbl.Gateway.Session
import Skribbl.Gateway.Takeover
import Skribbl.Gateway.FanOut
import Skribbl.Gateway.Discovery
import Skribbl.Gateway.Placement
import Skribbl.Backend.Models
import Skribbl.Backend.Store
import Skribbl.Backend.Broadcast
import Skribbl.Backend.GameEngine
import Skribbl.Backend.TurnSpecs
import Skribbl.Backend.Membership
import Skribbl.Backend.VoteKick
import Skribbl.Backend.Connections
import Skribbl.Backend.Lobby
import Skribbl.Backend.Worker
import Skribbl.Backend.FiredTimer
import Skribbl.Backend.Stability
import Skribbl.Backend.Snapshot
import Skribbl.Backend.Reconnect
import Skribbl.Backend.Schedule
import Skribbl.Backend.Churn
import Skribbl.Backend.Scoring
import Skribbl.Backend.Rounds
import Skribbl.Backend.Secrecy
import Skribbl.Backend.Grace
import Skribbl.Backend.TurnEnds
import Skribbl.Backend.Dispatch
import Skribbl.Backend.Registry
import Skribbl.Backend.Capacity
import Skribbl.Backend.Coherence
import Skribbl.Backend.Requests
import Skribbl.Backend.ErrorExits
import Skribbl.Backend.Requesters
import Skribbl.Backend.Departures
import Skribbl.Backend.PrivateSends
import Skribbl.System.Drawing
import Skribbl.System.Backpressure
import Skribbl.System.Envelope
import Skribbl.System.Sticky
import Skribbl.System.Transports
import Skribbl.System.Assignment
import Skribbl.System.RestoredJoin
import Skribbl.System.ProxyRelay
import Skribbl.System.RoomOwner
import Skribbl.System.Attempts
import Skribbl.System.RemoteJoin
import Skribbl.System.Handover
import Skribbl.Lib.TwoLevel
import Skribbl.Gateway.SessionIndex
import Skribbl.Gateway.ReadLoop
import Skribbl.Gateway.StreamManager
import Skribbl.Gateway.IdleClose
import Skribbl.Gateway.Reconnection
import Skribbl.Backend.Passwords
import Skribbl.Frontend.GameReducer
import Skribbl.Frontend.GameState
import Skribbl.Backend.Names
import Skribbl.Lib.Slices
import Skribbl.Gateway.Buffer
import Skribbl.Lib.EditDistance
import Skribbl.Backend.CloseGuess
import Skribbl.Lib.StableSort
import Skribbl.Backend.FinalResults
import Skribbl.Frontend.HexColour
import Skribbl.Frontend.FloodFill
import Skribbl.Frontend.DrawingCodec
import Skribbl.Lib.Trim
import Skribbl.Backend.Settings
import Skribbl.Lib.Sampling
import Skribbl.Backend.WordPacks
import Skribbl.Backend.WordOffers
import Skribbl.Backend.Hints
import Skribbl.Backend.Chronicle
import Skribbl.Backend.WordUniqueness
import Skribbl.Backend.SessionTotals
import Skribbl.Backend.RoomLaws
