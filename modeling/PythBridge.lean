import PythBridge.Clarity.Exec
import PythBridge.Clarity.Buff
import PythBridge.Clarity.Principal
import PythBridge.Clarity.Reports
import PythBridge.Clarity.Exits
import PythBridge.Clarity.Walk
import PythBridge.Clarity.Runs
import PythBridge.Clarity.Distinct
import PythBridge.Clarity.Latest
import PythBridge.Clarity.Cues
import PythBridge.Clarity.Mapping
import PythBridge.Clarity.FungibleToken
import PythBridge.Clarity.MerkleTree
import PythBridge.HkCursor
import PythBridge.Traits
import PythBridge.Platform
import PythBridge.Storage
import PythBridge.Wormhole.Core
import PythBridge.Wormhole.Layout
import PythBridge.Wormhole.RoundTrip
import PythBridge.Wormhole.Quorum
import PythBridge.Wormhole.GuardianPayload
import PythBridge.Wormhole.GuardianSets
import PythBridge.Wormhole.Lockout
import PythBridge.Wormhole.StoredKeys
import PythBridge.Wormhole.Signers
import PythBridge.Wormhole.VaaAborts
import PythBridge.Wormhole.UpdateAborts
import PythBridge.Pyth.Governance
import PythBridge.Pyth.Store
import PythBridge.Pyth.Decoder
import PythBridge.Pyth.Oracle
import PythBridge.Pyth.ExecutionFlow
import PythBridge.Pyth.PnauRoundTrip
import PythBridge.Pyth.Histories
import PythBridge.Pyth.Publishing
import PythBridge.Pyth.Updates
import PythBridge.Pyth.StoreRuns
import PythBridge.Pyth.Batches
import PythBridge.Pyth.DecoderRecords
import PythBridge.Pyth.Complete
import PythBridge.Pyth.Pnau
import PythBridge.Pyth.PlainReader
import PythBridge.Pyth.DecoderAborts
import PythBridge.Pyth.DataSources
import PythBridge.Pyth.Bodies
import PythBridge.System
import PythBridge.System.Frames
import PythBridge.System.Updates
import PythBridge.System.Effects
import PythBridge.System.Governance
import PythBridge.System.Replay
import PythBridge.System.Roles
import PythBridge.System.ExecutionPlan
import PythBridge.System.Prices
import PythBridge.System.Publishing
import PythBridge.System.Delivery
import PythBridge.System.Expiry
import PythBridge.System.Fees
import PythBridge.System.GovernanceRoundTrip
import PythBridge.System.AcceptedValues
import PythBridge.System.Frozen
import PythBridge.P2wh.Decoder
import PythBridge.P2wh.Attestations
import PythBridge.P2wh.RoundTrip
import PythBridge.P2wh.Updates
import PythBridge.Relayer.Recovery
import PythBridge.Relayer.GuardianKeys
import PythBridge.Relayer.Service
import PythBridge.Relayer.ServiceRuns
import PythBridge.Relayer.Clocks
import PythBridge.Cbtc.Token
import PythBridge.Cbtc.Pool
import PythBridge.Cbtc.Runs
