import HolonAdapter.Python.Exception
import HolonAdapter.Python.Text
import HolonAdapter.Python.Float
import HolonAdapter.Python.Json
import HolonAdapter.Settings
import HolonAdapter.Git.Tree
import HolonAdapter.Git.Repo
import HolonAdapter.Session
import HolonAdapter.Run.World
import HolonAdapter.Run.Loop
import HolonAdapter.Run.Artifacts
import HolonAdapter.Run.Adapter
import HolonAdapter.Run.Events
import HolonAdapter.Run.Outcome
import HolonAdapter.Permissions
import HolonAdapter.Config
import HolonAdapter.Fs.Store
import HolonAdapter.Fs.Mkdir
import HolonAdapter.Fs.Operations
