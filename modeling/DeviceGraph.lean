import DeviceGraph.Assembly.Node
import DeviceGraph.Assembly.Row
import DeviceGraph.Category
import DeviceGraph.Command.Arguments
import DeviceGraph.Command.Basic
import DeviceGraph.Command.Run
import DeviceGraph.Dict
import DeviceGraph.Engine
import DeviceGraph.Error
import DeviceGraph.Identity
import DeviceGraph.Item.Basic
import DeviceGraph.Item.Device
import DeviceGraph.Item.Group
import DeviceGraph.Json.Basic
import DeviceGraph.Json.Fault
import DeviceGraph.Json.Form
import DeviceGraph.Json.Printer
import DeviceGraph.Json.Reader
import DeviceGraph.Json.Record
import DeviceGraph.Json.Token
import DeviceGraph.Main
import DeviceGraph.Node.Basic
import DeviceGraph.Node.Json
import DeviceGraph.Number.Double
import DeviceGraph.Number.Reading
import DeviceGraph.Number.Shortest
import DeviceGraph.Proofs.Checks
import DeviceGraph.Proofs.Identity
import DeviceGraph.Proofs.Number.Decimal
import DeviceGraph.Proofs.Text.Percent
import DeviceGraph.Proofs.Text.Pieces
import DeviceGraph.Proofs.Text.Utf8
import DeviceGraph.Relations
import DeviceGraph.Search.Error
import DeviceGraph.Search.Operator
import DeviceGraph.Search.Request
import DeviceGraph.Search.Results
import DeviceGraph.Search.Statement
import DeviceGraph.Search.Wire
import DeviceGraph.Service.Devices
import DeviceGraph.Service.Error
import DeviceGraph.Service.Groups
import DeviceGraph.Service.Search
import DeviceGraph.Settings.App
import DeviceGraph.Settings.Basic
import DeviceGraph.Settings.Environment
import DeviceGraph.Settings.Load
import DeviceGraph.Settings.Path
import DeviceGraph.Settings.Toml.File
import DeviceGraph.Settings.Toml.Moment
import DeviceGraph.Settings.Toml.Number
import DeviceGraph.Settings.Toml.Table
import DeviceGraph.Settings.Toml.Text
import DeviceGraph.Statement.Basic
import DeviceGraph.Statement.Entity
import DeviceGraph.Statement.Identifier
import DeviceGraph.Store.Devices
import DeviceGraph.Store.Entity
import DeviceGraph.Store.Groups
import DeviceGraph.Store.Page
import DeviceGraph.Text.LowerCase
import DeviceGraph.Text.Percent
import DeviceGraph.Text.Pieces
import DeviceGraph.Text.Printable
import DeviceGraph.Text.Utf8
import DeviceGraph.TypeChain
import DeviceGraph.Proofs.Search.Request
import DeviceGraph.Proofs.Dict
import DeviceGraph.Proofs.Search.Filter
import DeviceGraph.Proofs.Search.Parameters
import DeviceGraph.Proofs.Search.Written
import DeviceGraph.Proofs.Search.ValueMap
import DeviceGraph.Proofs.Search.QueryString
import DeviceGraph.Proofs.Statement.Identifier
import DeviceGraph.Proofs.Statement.Parameters
import DeviceGraph.Proofs.Statement.Text
import DeviceGraph.Proofs.Search.Conditions
import DeviceGraph.Proofs.Text.Reading
import DeviceGraph.Proofs.Search.Readability
import DeviceGraph.Proofs.Search.Recovery
import DeviceGraph.Proofs.Search.Obtained
import DeviceGraph.Proofs.TypeChain
import DeviceGraph.Proofs.Statement.Records
import DeviceGraph.Proofs.Engine
import DeviceGraph.Proofs.Assembly.Node
import DeviceGraph.Proofs.Store.Creation
import DeviceGraph.Proofs.Item.Reading
import DeviceGraph.Proofs.Service.Creation
import DeviceGraph.Proofs.Statement.Placeholders
import DeviceGraph.Proofs.Statement.Closed
import DeviceGraph.Proofs.Conversation
import DeviceGraph.Proofs.Store.Call
import DeviceGraph.Proofs.Store.Closed
import DeviceGraph.Proofs.Service.Call
import DeviceGraph.Proofs.Operation
import DeviceGraph.Proofs.Statement.Form
import DeviceGraph.Proofs.Search.Form
import DeviceGraph.Proofs.Store.Form
import DeviceGraph.Proofs.Store.Alike
import DeviceGraph.Proofs.Store.Changes
import DeviceGraph.Proofs.Graph.Basic
import DeviceGraph.Proofs.Graph.Building
import DeviceGraph.Proofs.Graph.Run
import DeviceGraph.Proofs.Graph.Creation
import DeviceGraph.Proofs.Store.Keys
import DeviceGraph.Proofs.Store.Opening
import DeviceGraph.Proofs.Service.Guard
import DeviceGraph.Proofs.Service.Hierarchy
import DeviceGraph.Proofs.Graph.Hierarchy
import DeviceGraph.Proofs.Search.Grammar
import DeviceGraph.Proofs.Search.Order
import DeviceGraph.Proofs.Assembly.WellFormed
import DeviceGraph.Proofs.Store.Returned
import DeviceGraph.Proofs.Links
import DeviceGraph.Proofs.Statement.Layout
import DeviceGraph.Proofs.Store.Layout
import DeviceGraph.Proofs.Store.Seeking
import DeviceGraph.Proofs.Store.Address
import DeviceGraph.Proofs.Assembly.Hops
import DeviceGraph.Proofs.Assembly.Surroundings
import DeviceGraph.Proofs.Assembly.Rows
import DeviceGraph.Proofs.Assembly.Repeats
import DeviceGraph.Proofs.Assembly.Followed
import DeviceGraph.Proofs.Service.Related
import DeviceGraph.Proofs.Service.Components
import DeviceGraph.Proofs.Statement.Tokens
import DeviceGraph.Proofs.Statement.Assignments
import DeviceGraph.Proofs.Store.Update
import DeviceGraph.Proofs.Search.Canonical
import DeviceGraph.Proofs.Search.Decoded
import DeviceGraph.Proofs.Item.Links
import DeviceGraph.Proofs.Graph.Declared
import DeviceGraph.Proofs.Graph.Attaching
import DeviceGraph.Proofs.Graph.Direction
import DeviceGraph.Proofs.Number.Rounding
import DeviceGraph.Proofs.Search.Bounds
import DeviceGraph.Proofs.Service.Beneath
import DeviceGraph.Proofs.Json.Members
import DeviceGraph.Proofs.Node.Json
import DeviceGraph.Proofs.Item.Json
import DeviceGraph.Proofs.Assembly.Visits
import DeviceGraph.Proofs.Store.Refusals
import DeviceGraph.Proofs.Service.ShortChains
import DeviceGraph.Proofs.Statement.Patterns
import DeviceGraph.Proofs.Text.ByteOrder
import DeviceGraph.Proofs.StableSort
import DeviceGraph.Proofs.Relations
