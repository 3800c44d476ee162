import ScriptHost.Main
import ScriptHost.Console.Execute
import ScriptHost.Stage.Snapshot
import ScriptHost.Proofs.Account
import ScriptHost.Proofs.Deeds
import ScriptHost.Proofs.Soundness
import ScriptHost.Proofs.Custody
import ScriptHost.Proofs.Ending
import ScriptHost.Proofs.Host
import ScriptHost.Proofs.View
import ScriptHost.Proofs.Attachment
import ScriptHost.Proofs.Resetting
import ScriptHost.Proofs.Emissions
import ScriptHost.Proofs.Headcount
import ScriptHost.Proofs.Announcements
import ScriptHost.Proofs.Requests
import ScriptHost.Proofs.Chronicle
import ScriptHost.Proofs.Isolation
import ScriptHost.Proofs.Registrations
import ScriptHost.Proofs.Refusals
import ScriptHost.Proofs.Table
import ScriptHost.Proofs.Emulation
import ScriptHost.Proofs.Passes
import ScriptHost.Proofs.Dispatches
import ScriptHost.Proofs.Callbacks
import ScriptHost.Proofs.Malformed
import ScriptHost.Proofs.Arguments
import ScriptHost.Proofs.Calm
import ScriptHost.Proofs.Restarts
import ScriptHost.Proofs.Contention
import ScriptHost.Proofs.Repetition
import ScriptHost.Proofs.ContextCalls
import ScriptHost.Proofs.Findings
import ScriptHost.Proofs.Enlistment
import ScriptHost.Proofs.Farewells
import ScriptHost.Proofs.Disguises
import ScriptHost.Proofs.Scans
import ScriptHost.Proofs.Rhythm
import ScriptHost.Proofs.Histories
import ScriptHost.Proofs.Reloading
