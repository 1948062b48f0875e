import ScriptHost.Main
import ScriptHost.Proofs.CommandLine.Execution
import ScriptHost.Proofs.CommandLine.FailedReload
import ScriptHost.Proofs.CommandLine.Printed
import ScriptHost.Proofs.CommandLine.Rebuild
import ScriptHost.Proofs.Files.Leftovers
import ScriptHost.Proofs.Host.Blame
import ScriptHost.Proofs.Host.Capture
import ScriptHost.Proofs.Host.Checkout
import ScriptHost.Proofs.Host.Defaults
import ScriptHost.Proofs.Host.Messages
import ScriptHost.Proofs.Host.Opening
import ScriptHost.Proofs.Host.Recovery
import ScriptHost.Proofs.Host.RefusedStart
import ScriptHost.Proofs.Module.RuntimeLimit
import ScriptHost.Proofs.Module.Spelling
import ScriptHost.Proofs.Module.Whole
import ScriptHost.Proofs.Report.Discretion
import ScriptHost.Proofs.Settings.Layers
import ScriptHost.Proofs.Settings.Timeouts
import ScriptHost.Proofs.Text.Lossless
