import MountSpace.Backend
import MountSpace.Device.Probe
import MountSpace.Device.RamDisk
import MountSpace.Lock
import MountSpace.NameSpace.Command
import MountSpace.Proofs.Effects
import MountSpace.Proofs.Image.Grammar
import MountSpace.Proofs.Image.Names
import MountSpace.Proofs.Image.Reading
import MountSpace.Proofs.Image.RoundTrip
import MountSpace.Proofs.NameSpaces.ClosedFiles
import MountSpace.Proofs.NameSpaces.Courses
import MountSpace.Proofs.NameSpaces.DescriptorMap
import MountSpace.Proofs.NameSpaces.Isolation
import MountSpace.Proofs.NameSpaces.Listing
import MountSpace.Proofs.NameSpaces.Loops
import MountSpace.Proofs.NameSpaces.MountAttempts
import MountSpace.Proofs.NameSpaces.OpenFiles
import MountSpace.Proofs.NameSpaces.OpenRules
import MountSpace.Proofs.NameSpaces.Reachable
import MountSpace.Proofs.NameSpaces.Reading
import MountSpace.Proofs.NameSpaces.RefusedOpens
import MountSpace.Proofs.NameSpaces.RoundTrips
import MountSpace.Proofs.NameSpaces.Routes
import MountSpace.Proofs.NameSpaces.Serving
import MountSpace.Proofs.NameSpaces.Stranded
import MountSpace.Proofs.NameSpaces.Volumes
import MountSpace.Proofs.NameSpaces.WholeFiles
import MountSpace.Proofs.Paths.Absolute
import MountSpace.Proofs.Paths.Children
import MountSpace.Proofs.Paths.NormalForm
import MountSpace.Proofs.Paths.Walks
import MountSpace.Proofs.Routing.Children
import MountSpace.Proofs.Routing.History
import MountSpace.Proofs.Routing.Lookup
import MountSpace.Proofs.Routing.Resolution
import MountSpace.Proofs.Routing.Spelling
import MountSpace.Proofs.Routing.Table
import MountSpace.Proofs.Storage.Bounds
import MountSpace.Proofs.Storage.Calls
import MountSpace.Proofs.Storage.Content
import MountSpace.Proofs.Storage.Disk
import MountSpace.Proofs.Storage.Interruption
import MountSpace.Proofs.Storage.LastWrites
import MountSpace.Proofs.Storage.Layer
import MountSpace.Proofs.Storage.Oblivious
import MountSpace.Proofs.Storage.Reliable
import MountSpace.Proofs.Storage.Superblock
import MountSpace.Proofs.Storage.Trees
import MountSpace.Proofs.Storage.Undisturbed
import MountSpace.Proofs.Trees.Exchanges
import MountSpace.Proofs.Trees.Files
import MountSpace.Proofs.Trees.Lookups
import MountSpace.Proofs.Trees.Obstacles
import MountSpace.Proofs.Trees.Shape
import MountSpace.Proofs.Trees.Sizes
import MountSpace.Proofs.Trees.Views
import MountSpace.Proofs.Volumes.Census
import MountSpace.Proofs.Volumes.Entries
import MountSpace.Proofs.Volumes.Handles
import MountSpace.Proofs.Volumes.Interrupted
import MountSpace.Proofs.Volumes.Mounts
import MountSpace.Proofs.Volumes.NoSpace
import MountSpace.Proofs.Volumes.Nodes
import MountSpace.Proofs.Volumes.OpenRules
import MountSpace.Proofs.Volumes.Persistence
import MountSpace.Proofs.Volumes.PlannedFiles
import MountSpace.Proofs.Volumes.Plans
import MountSpace.Proofs.Volumes.Products
import MountSpace.Proofs.Volumes.Refusals
import MountSpace.Proofs.Volumes.Renames
import MountSpace.Proofs.Volumes.Requests
import MountSpace.Proofs.Volumes.Room
import MountSpace.Proofs.Volumes.Rooted
import MountSpace.Proofs.Volumes.SharedNumbers
import MountSpace.Proofs.Volumes.Splices
import MountSpace.Proofs.Volumes.Transfers
import MountSpace.Proofs.Volumes.Unmounted
import MountSpace.Walk
