import ArthNeura.Frame.Dispatch
import ArthNeura.Frame.Storage
import ArthNeura.Frame.Run
import ArthNeura.Frame.Currency
import ArthNeura.Frame.Scale
import ArthNeura.Frame.Replay
import ArthNeura.Frame.Simulation
import ArthNeura.Scale.Codec
import ArthNeura.Scale.Dynamic
import ArthNeura.Merkle.Layered
import ArthNeura.Merkle.Binding
import ArthNeura.Escrow.Pallet
import ArthNeura.Escrow.Ledger
import ArthNeura.AgentRegistry.Pallet
import ArthNeura.AgentRegistry.Spec
import ArthNeura.AgentRegistry.Deposits
import ArthNeura.AgentRegistry.Effects
import ArthNeura.AgentRegistry.Profiles
import ArthNeura.AgentRegistry.Identity
import ArthNeura.AgentRegistry.Stars
import ArthNeura.AgentRegistry.Strikes
import ArthNeura.VectorDb.Pallet
import ArthNeura.VectorDb.Spec
import ArthNeura.VectorDb.Mock
import ArthNeura.VectorDb.Lifecycle
import ArthNeura.VectorDb.Errors
import ArthNeura.VectorDb.ActiveCount
import ArthNeura.VectorDb.Adjudication
import ArthNeura.VectorDb.Identifiers
import ArthNeura.OffchainVectorDb.Merkle
import ArthNeura.OffchainVectorDb.ChunkStore
import ArthNeura.OffchainVectorDb.Chunking
import ArthNeura.OffchainVectorDb.Registrations
import ArthNeura.OffchainVectorDb.Binding
import ArthNeura.OffchainVectorDb.Rows
import ArthNeura.OffchainVectorDb.FileSlices
import ArthNeura.OffchainVectorDb.CounterDispute
import ArthNeura.Runtime.Composition
import ArthNeura.Runtime.Metadata
import ArthNeura.Runtime.Effects
import ArthNeura.Runtime.Coherence
import ArthNeura.Runtime.Settlement
import ArthNeura.Runtime.Backing
import ArthNeura.Runtime.Authority
import ArthNeura.Runtime.Conservation
import ArthNeura.Runtime.Timeline
import ArthNeura.Runtime.Deadlines
import ArthNeura.Runtime.Registry
import ArthNeura.Runtime.Commutation
import ArthNeura.Runtime.Indexer
import ArthNeura.Runtime.Terms
import ArthNeura.Market.Deal
import ArthNeura.Runtime.Refinement
import ArthNeura.OffchainVectorDb.World
import ArthNeura.OffchainVectorDb.Provider
import ArthNeura.OffchainVectorDb.Transactions
import ArthNeura.OffchainVectorDb.Cli
import ArthNeura.OffchainAgentRegistry.Registration
import ArthNeura.OffchainAgentRegistry.Transactions
import ArthNeura.Codec.Hex
import ArthNeura.Codec.Text
import ArthNeura.Codec.Utf8
import ArthNeura.Process.Program
import ArthNeura.OffchainAgentRegistry.RegisterDoor
import ArthNeura.OffchainAgentRegistry.RegisterDoor.Http
import ArthNeura.OffchainAgentRegistry.RegisterMe
import ArthNeura.OffchainAgentRegistry.Keystore
import ArthNeura.OffchainAgentRegistry.Keystore.Mock
import ArthNeura.OffchainAgentRegistry.Keystore.Spec
import ArthNeura.OffchainAgentRegistry.Keystore.Integrity
import ArthNeura.OffchainAgentRegistry.Client
import ArthNeura.OffchainAgentRegistry.RegisterMe.Runs
import ArthNeura.OffchainAgentRegistry.RegisterOrLoad
import ArthNeura.OffchainAgentRegistry.Bootstrap
