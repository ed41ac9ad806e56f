import StorySuite.Build.Modules
import StorySuite.Config.Load
import StorySuite.Engine
import StorySuite.InlineFunction
import StorySuite.Proofs.Script.Catalog
import StorySuite.Proofs.Script.DefaultExport
import StorySuite.Proofs.Script.HookLookup
import StorySuite.Proofs.Suite.Bindings
import StorySuite.Proofs.Suite.Dialects
import StorySuite.Proofs.Suite.EmbeddedData
import StorySuite.Proofs.Suite.InlineBody
import StorySuite.Proofs.Synthesis.Order
import StorySuite.Source.Disk
import StorySuite.Source.FileTable
import StorySuite.Proofs.Synthesis.Planning
import StorySuite.Proofs.Engine.Execution
import StorySuite.Proofs.Engine.Identities
import StorySuite.Proofs.Engine.Preconditions
import StorySuite.Proofs.Sandbox.Required
import StorySuite.Proofs.Source.FileTable
import StorySuite.Proofs.Build.Sources
import StorySuite.Proofs.Synthesis.Selection
import StorySuite.Proofs.Suite.Names
import StorySuite.Proofs.Sandbox.Requests
import StorySuite.Proofs.Suite.Awaiting
import StorySuite.Proofs.Sandbox.Wrapping
import StorySuite.Proofs.Sandbox.Replies
import StorySuite.Proofs.Suite.Alone
import StorySuite.Proofs.Config.Layers
import StorySuite.Proofs.Suite.Literals
