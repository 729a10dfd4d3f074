import ShaderDriver.Session.Step
import ShaderDriver.Proofs.Container.Requests
import ShaderDriver.Proofs.Act.Frame
import ShaderDriver.Proofs.Memory.Account
import ShaderDriver.Proofs.Object.Assets
import ShaderDriver.Proofs.Object.Moves
import ShaderDriver.Proofs.Object.Ownership
import ShaderDriver.Proofs.EntryPoint.Lookup
import ShaderDriver.Proofs.EntryPoint.Undelivered
import ShaderDriver.Proofs.Object.Making
import ShaderDriver.Proofs.Registry.Entries
import ShaderDriver.Proofs.Session.Holdings
import ShaderDriver.Proofs.Session.Keeping
import ShaderDriver.Proofs.Session.Upkeep
import ShaderDriver.Proofs.Session.Registered
import ShaderDriver.Proofs.Session.Commands
import ShaderDriver.Proofs.Session.Accounting
import ShaderDriver.Proofs.EntryPoint.Effects
import ShaderDriver.Proofs.EntryPoint.Outcomes
import ShaderDriver.Proofs.Registry.Roster
import ShaderDriver.Proofs.Session.Ledger
import ShaderDriver.Proofs.Session.Epochs
import ShaderDriver.Proofs.Session.Locks
import ShaderDriver.Proofs.Session.Rearranging
import ShaderDriver.Proofs.Object.Sparing
import ShaderDriver.Proofs.Object.Ceremony
import ShaderDriver.Proofs.Session.Products
import ShaderDriver.Proofs.Session.Recollection
import ShaderDriver.Proofs.Session.Endings
import ShaderDriver.Proofs.Session.Owners
import ShaderDriver.Proofs.Container.Modules
import ShaderDriver.Proofs.Memory.Bookkeeping
import ShaderDriver.Proofs.Object.Programs
import ShaderDriver.Proofs.Act.Upsets
import ShaderDriver.Proofs.Object.Upsets
import ShaderDriver.Proofs.EntryPoint.Upsets
import ShaderDriver.Proofs.Session.Upsets
import ShaderDriver.Proofs.Session.Solvency
import ShaderDriver.Proofs.Container.Slices
import ShaderDriver.Proofs.Session.Calm
import ShaderDriver.Proofs.Act.Reports
import ShaderDriver.Proofs.Object.Reports
import ShaderDriver.Proofs.EntryPoint.Reports
import ShaderDriver.Proofs.Session.Dismissals
import ShaderDriver.Proofs.Registry.Mapping
import ShaderDriver.Proofs.Memory.Hiding
import ShaderDriver.Proofs.Memory.Mismatches
import ShaderDriver.Proofs.Memory.Overdrafts
import ShaderDriver.Proofs.Act.Leeway
import ShaderDriver.Proofs.Act.Mirrors
import ShaderDriver.Proofs.Object.Mirrors
import ShaderDriver.Proofs.EntryPoint.Mirrors
import ShaderDriver.Proofs.Session.Mirrors
import ShaderDriver.Proofs.Session.Inertness
import ShaderDriver.Proofs.Session.Records
import ShaderDriver.Proofs.Session.Resemblance
import ShaderDriver.Proofs.Object.Answers
import ShaderDriver.Proofs.Object.Phases
import ShaderDriver.Proofs.Object.Enactment
import ShaderDriver.Proofs.Object.Affordability
import ShaderDriver.Proofs.Session.Departures
import ShaderDriver.Proofs.Session.Cascade
import ShaderDriver.Proofs.Session.Closing
import ShaderDriver.Proofs.Object.Dialects
import ShaderDriver.Proofs.Object.Judgements
import ShaderDriver.Proofs.Object.Interruptions
import ShaderDriver.Proofs.Act.Heedless
import ShaderDriver.Proofs.EntryPoint.Containment
import ShaderDriver.Proofs.EntryPoint.Refusals
import ShaderDriver.Proofs.Session.Damage
import ShaderDriver.Proofs.Log.Colours
import ShaderDriver.Proofs.Log.Lines
