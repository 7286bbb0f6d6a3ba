import Testbed.Action
import Testbed.Agent.Basic
import Testbed.Agent.Books
import Testbed.Agent.ChildProcess
import Testbed.Agent.Command
import Testbed.Agent.Errand
import Testbed.Agent.InMemory
import Testbed.Agent.Template
import Testbed.Agent.Watch
import Testbed.Cli.Options
import Testbed.Cli.Outcome
import Testbed.Cli.Report
import Testbed.Cli.Request
import Testbed.Description.Basic
import Testbed.Description.Defect
import Testbed.Description.Plan
import Testbed.Description.Read
import Testbed.Description.Write
import Testbed.Endpoint.Basic
import Testbed.Endpoint.Read
import Testbed.Error
import Testbed.Fabric.Basic
import Testbed.Fabric.InMemory
import Testbed.Fabric.Namespaces
import Testbed.Fabric.Topology
import Testbed.Host.Command
import Testbed.Host.CommandError
import Testbed.Host.CommandLine
import Testbed.Host.Files
import Testbed.Host.IoError
import Testbed.Host.Network
import Testbed.Host.ProcessNotes
import Testbed.Host.Processes
import Testbed.Host.Quoting
import Testbed.Host.Script
import Testbed.Host.Shell
import Testbed.Host.Template
import Testbed.Main
import Testbed.Plan.Basic
import Testbed.Plan.History
import Testbed.Plan.Link
import Testbed.Plan.Node
import Testbed.Plan.Operation
import Testbed.Proofs.Agent.Children
import Testbed.Proofs.Agent.Template
import Testbed.Proofs.Agent.Watch
import Testbed.Proofs.Cli.Arguments
import Testbed.Proofs.Cli.DryRun
import Testbed.Proofs.Description.Checks
import Testbed.Proofs.Description.Links
import Testbed.Proofs.Description.Numbering
import Testbed.Proofs.Description.Plan
import Testbed.Proofs.Endpoint.Grammar
import Testbed.Proofs.Endpoint.RoundTrip
import Testbed.Proofs.Fabric.Laying
import Testbed.Proofs.Fabric.Lines
import Testbed.Proofs.Fabric.Links
import Testbed.Proofs.Fabric.Nodes
import Testbed.Proofs.Fabric.Realized
import Testbed.Proofs.Fabric.Remains
import Testbed.Proofs.Fabric.Runs
import Testbed.Proofs.Fabric.Setup
import Testbed.Proofs.Host.Network
import Testbed.Proofs.Host.Reading
import Testbed.Proofs.InMemory.Agent
import Testbed.Proofs.InMemory.Books
import Testbed.Proofs.InMemory.Counters
import Testbed.Proofs.InMemory.Fabric
import Testbed.Proofs.InMemory.Lasting
import Testbed.Proofs.InMemory.LinkKey
import Testbed.Proofs.InMemory.Pace
import Testbed.Proofs.InMemory.Past
import Testbed.Proofs.InMemory.Readiness
import Testbed.Proofs.InMemory.Startup
import Testbed.Proofs.InMemory.World
import Testbed.Proofs.Numeral
import Testbed.Proofs.Plan.Built
import Testbed.Proofs.Plan.Change
import Testbed.Proofs.Plan.Ends
import Testbed.Proofs.Plan.Grown
import Testbed.Proofs.Plan.History
import Testbed.Proofs.Plan.InterfaceName
import Testbed.Proofs.Plan.Lasting
import Testbed.Proofs.Plan.Ordinals
import Testbed.Proofs.Plan.Refusal
import Testbed.Proofs.Plan.Removal
import Testbed.Proofs.Plan.Store
import Testbed.Proofs.Plan.Stored
import Testbed.Proofs.Plan.Wiring
import Testbed.Proofs.Session.Calls
import Testbed.Proofs.Session.Concurrency
import Testbed.Proofs.Session.Condition
import Testbed.Proofs.Session.Crowd
import Testbed.Proofs.Session.FailFast
import Testbed.Proofs.Session.Keeping
import Testbed.Proofs.Session.Mirror
import Testbed.Proofs.Session.Pace
import Testbed.Proofs.Session.Pending
import Testbed.Proofs.Session.Release
import Testbed.Proofs.Session.Repetition
import Testbed.Proofs.Session.Report
import Testbed.Proofs.Session.Rollback
import Testbed.Proofs.Session.Simulation
import Testbed.Proofs.Session.Success
import Testbed.Proofs.Session.Takedown
import Testbed.Proofs.Sorted
import Testbed.Proofs.Startup.Clock
import Testbed.Proofs.Startup.Entries
import Testbed.Proofs.Startup.History
import Testbed.Proofs.Startup.Pace
import Testbed.Proofs.Startup.Phases
import Testbed.Proofs.Startup.Stage
import Testbed.Proofs.Startup.Started
import Testbed.Proofs.Startup.Step
import Testbed.Proofs.Startup.Success
import Testbed.Proofs.Switch.Conduct
import Testbed.Proofs.Switch.Fields
import Testbed.Proofs.Switch.Life
import Testbed.Proofs.Switch.Performed
import Testbed.Proofs.Switch.Reservation
import Testbed.Proofs.Switch.Sharing
import Testbed.Proofs.Switch.Step
import Testbed.Proofs.Switch.Stopping
import Testbed.Proofs.Text.Stripped
import Testbed.Session.Basic
import Testbed.Session.HostTask
import Testbed.Session.InMemory
import Testbed.Session.Journal
import Testbed.Session.Lane
import Testbed.Session.OnHost
import Testbed.Session.Startup
import Testbed.Sorted
import Testbed.Switch.Binding
import Testbed.Switch.Fields
import Testbed.Switch.Flight
import Testbed.Switch.PortRegistry
import Testbed.Switch.State
import Testbed.Text.Blank
import Testbed.Text.Json
import Testbed.Text.Literal
import Testbed.Text.Search
import Testbed.Text.Split
import Testbed.Text.Unprintable
import Testbed.Text.Utf8
import Testbed.Time
import Testbed.Tuner.Basic
import Testbed.Tuner.Ethtool
import Testbed.Tuner.InMemory
import Testbed.Yaml.Character
import Testbed.Yaml.Decode
import Testbed.Yaml.Token
import Testbed.Yaml.Token.Block
import Testbed.Yaml.Token.Folding
import Testbed.Yaml.Token.Lexer
import Testbed.Yaml.Token.Plain
import Testbed.Yaml.Token.Property
import Testbed.Yaml.Token.Quoted
import Testbed.Yaml.Tree
import Testbed.Yaml.Tree.Reader
