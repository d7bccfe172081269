import TorusEngine.Action
import TorusEngine.Dictionary
import TorusEngine.Fifo
import TorusEngine.LittleEndian
import TorusEngine.Relevance.Test
import TorusEngine.Size
import TorusEngine.Torus.Geometry
import TorusEngine.Numeral.Style
import TorusEngine.Paging.IndexPool
import TorusEngine.Paging.CapacityRule
import TorusEngine.Paging.ByteStore
import TorusEngine.Paging.MemoryConfig
import TorusEngine.Paging.Arena
import TorusEngine.Paging.Schema
import TorusEngine.Paging.Memory
import TorusEngine.Session.Workspace
import TorusEngine.Relevance.Scene
import TorusEngine.Session.Lookout
import TorusEngine.Drawing.Pipeline
import TorusEngine.Drawing.FrameTimer
import TorusEngine.Drawing.DeviceCopy
import TorusEngine.Session.DrawLists
import TorusEngine.Session.DrawPair
import TorusEngine.Session.World
import TorusEngine.Json.Shape
import TorusEngine.Settings.Writing
import TorusEngine.Simulation.Run
import TorusEngine.Main
import TorusEngine.Proofs.Paging.IndexPool
import TorusEngine.Proofs.Paging.Ownership
import TorusEngine.Proofs.Paging.Bytes
import TorusEngine.Proofs.Paging.Isolation
import TorusEngine.Proofs.Paging.Capacity
import TorusEngine.Proofs.Paging.Cells
import TorusEngine.Proofs.Paging.ObjectLists
import TorusEngine.Proofs.Drawing.DrawCalls
import TorusEngine.Proofs.Paging.Awaiting
import TorusEngine.Proofs.Paging.FreeingSystem
import TorusEngine.Proofs.Paging.Deferral
import TorusEngine.Proofs.Paging.Account
import TorusEngine.Proofs.Paging.Shutdown
import TorusEngine.Proofs.Paging.Settling
import TorusEngine.Proofs.Relevance.Published
import TorusEngine.Proofs.Relevance.Graph
import TorusEngine.Proofs.Relevance.Executor
import TorusEngine.Proofs.Relevance.Grid
import TorusEngine.Proofs.Relevance.BusyScene
import TorusEngine.Proofs.Relevance.Telling
import TorusEngine.Proofs.Relevance.Told
import TorusEngine.Proofs.Relevance.ReachableScenes
import TorusEngine.Proofs.Relevance.Sight
import TorusEngine.Proofs.Relevance.Requests
import TorusEngine.Proofs.Relevance.Views
import TorusEngine.Proofs.Relevance.GridHistory
import TorusEngine.Proofs.Relevance.Versions
import TorusEngine.Proofs.Drawing.BackLists
import TorusEngine.Proofs.Drawing.DoubleBuffer
import TorusEngine.Proofs.Drawing.WholeRebuilds
import TorusEngine.Proofs.Relevance.Rebuilt
import TorusEngine.Proofs.Paging.Flushing
import TorusEngine.Proofs.Paging.Uploads
import TorusEngine.Proofs.Paging.Copies
import TorusEngine.Proofs.Drawing.WrittenRecords
import TorusEngine.Proofs.Drawing.CopiedFrames
import TorusEngine.Proofs.Relevance.CoarseFilter
import TorusEngine.Proofs.Paging.Refusals
import TorusEngine.Proofs.Paging.Exhaustion
import TorusEngine.Proofs.Paging.Compaction
import TorusEngine.Proofs.Paging.PoolHistory
import TorusEngine.Proofs.Paging.ReadBack
import TorusEngine.Proofs.Paging.BatchTimes
import TorusEngine.Proofs.Drawing.CleanLists
import TorusEngine.Proofs.Drawing.NearestFirst
import TorusEngine.Proofs.Relevance.TorusDistance
import TorusEngine.Proofs.Paging.ListRoundTrips
import TorusEngine.Proofs.Torus.ShortestWay
import TorusEngine.Proofs.Drawing.CallOrder
import TorusEngine.Proofs.Paging.PastTheEnd
import TorusEngine.Proofs.Paging.Limits
import TorusEngine.Proofs.Settings.SavedConfigs
import TorusEngine.Proofs.Drawing.FrameTimer
import TorusEngine.Proofs.Paging.TrimmedPools
import TorusEngine.Proofs.Json.Arrays
import TorusEngine.Proofs.Paging.PackedSchemas
import TorusEngine.Proofs.Settings.ReadSchemas
