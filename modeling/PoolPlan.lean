import PoolPlan.Main
import PoolPlan.Proofs.Class.Change
import PoolPlan.Proofs.Run.FixedPoint
import PoolPlan.Proofs.Run.History
import PoolPlan.Proofs.Secret.Noninterference
import PoolPlan.Proofs.Plan.Problems
import PoolPlan.Proofs.Zone.Words
import PoolPlan.Proofs.Plan.Coverage
import PoolPlan.Proofs.Plan.Names
import PoolPlan.Proofs.Class.Equality
import PoolPlan.Proofs.Plan.Independence
import PoolPlan.Proofs.Class.Publication
import PoolPlan.Proofs.Run.Stages
import PoolPlan.Proofs.Json.Grammar
import PoolPlan.Proofs.Status.Refusal
import PoolPlan.Proofs.Plan.Fallback
import PoolPlan.Proofs.Plan.Bounds
import PoolPlan.Proofs.Plan.Ledger
import PoolPlan.Proofs.Version
import PoolPlan.Proofs.Image.Config
import PoolPlan.Proofs.Document.Value
import PoolPlan.Proofs.Document.Written
import PoolPlan.Proofs.Worker.Pool
import PoolPlan.Proofs.Status.Written
import PoolPlan.Proofs.Worker.Spec
import PoolPlan.Proofs.Rewriting
import PoolPlan.Proofs.Yaml.Line
import PoolPlan.Proofs.Yaml.Flow
import PoolPlan.Proofs.Yaml.Compact
import PoolPlan.Proofs.Yaml.Nodes
import PoolPlan.Proofs.Document.Respelling
import PoolPlan.Proofs.Worker.Respelling
import PoolPlan.Proofs.Command.WorkerFile
import PoolPlan.Proofs.Class.Canonical
import PoolPlan.Proofs.Class.SignedZero
import PoolPlan.Proofs.Image.Calls
import PoolPlan.Proofs.Worker.Offender
import PoolPlan.Proofs.Status.Kinds
import PoolPlan.Proofs.Secret.Store
import PoolPlan.Proofs.Command.Compile
import PoolPlan.Proofs.Run.Resources
import PoolPlan.Proofs.Secret.Attachment
