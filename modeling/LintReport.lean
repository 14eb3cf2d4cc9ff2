import LintReport.Inspection
import LintReport.Json.Assembly
import LintReport.Json.Payload
import LintReport.Session
import LintReport.Text.ByteLine
import LintReport.Proofs.Format
import LintReport.Proofs.Offering
import LintReport.Proofs.Watching
import LintReport.Proofs.Capture
import LintReport.Proofs.Isolation
import LintReport.Proofs.PartialOutput
import LintReport.Proofs.ReadBack
import LintReport.Proofs.Allowance
import LintReport.Proofs.ShortWrites
import LintReport.Proofs.Logging
import LintReport.Proofs.Handles
import LintReport.Proofs.Exchange
import LintReport.Proofs.Splitting
import LintReport.Proofs.Window
import LintReport.Proofs.EarlierLines
import LintReport.Proofs.Routes
import LintReport.Proofs.Framing
import LintReport.Proofs.Grammar
import LintReport.Proofs.Recognition
import LintReport.Proofs.Passing
import LintReport.Proofs.Fields
import LintReport.Proofs.Members
import LintReport.Proofs.Shapes
import LintReport.Proofs.Literals
import LintReport.Proofs.RoundTrip
import LintReport.Proofs.Accounting
import LintReport.Proofs.ByteLayout
import LintReport.Proofs.Calls
