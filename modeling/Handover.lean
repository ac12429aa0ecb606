import Handover.Main
import Handover.Proofs.Base64
import Handover.Proofs.Documents
import Handover.Proofs.Entries
import Handover.Proofs.Interpreters
import Handover.Proofs.LowerCase
import Handover.Proofs.Members
import Handover.Proofs.Placement
import Handover.Proofs.PrintedJson
import Handover.Proofs.ProbedFile
import Handover.Proofs.Report
import Handover.Proofs.RoundTrip
import Handover.Proofs.Runs
import Handover.Proofs.Search
import Handover.Proofs.Tables
import Handover.Proofs.Validation
import Handover.Proofs.SchemeNames
import Handover.Proofs.Absence
import Handover.Proofs.Course
import Handover.Proofs.Dependence
import Handover.Proofs.Components
import Handover.Proofs.CandidatePaths
import Handover.Proofs.Starting
import Handover.Proofs.Handoffs
import Handover.Proofs.MoreFiles
import Handover.Proofs.Parents
import Handover.Proofs.WorkingDirectory
import Handover.Proofs.TypeFaults
import Handover.Proofs.Rearrangement
import Handover.Proofs.PathTexts
import Handover.Proofs.ReportLines
import Handover.Proofs.SearchPath
