import GraphBatch.Builder
import GraphBatch.Cli.Exit
import GraphBatch.Host.FileTree
import GraphBatch.Json.Datum
import GraphBatch.Main
import GraphBatch.Proofs.Builder.Building
import GraphBatch.Proofs.Cli.Simulate
import GraphBatch.Proofs.Config.Layers
import GraphBatch.Proofs.Cursor.Calls
import GraphBatch.Proofs.Executor.Boundaries
import GraphBatch.Proofs.Executor.Breakdown
import GraphBatch.Proofs.Executor.Chunks
import GraphBatch.Proofs.Executor.Delivery
import GraphBatch.Proofs.Executor.Events
import GraphBatch.Proofs.Executor.Exhausted
import GraphBatch.Proofs.Executor.FailedBatches
import GraphBatch.Proofs.Executor.Injected
import GraphBatch.Proofs.Executor.Positions
import GraphBatch.Proofs.Executor.Snapshots
import GraphBatch.Proofs.Executor.Transactions
import GraphBatch.Proofs.Items.Reading
import GraphBatch.Proofs.Query.Parameters
import GraphBatch.Proofs.Query.Paths
import GraphBatch.Proofs.Runner.Atomicity
import GraphBatch.Proofs.Runner.Counter
import GraphBatch.Proofs.Runner.Strategies
import GraphBatch.Proofs.Server.Isolation
import GraphBatch.Proofs.Sharing.Conservation
