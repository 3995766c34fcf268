import LinearProgram.Catalog.Lemmas
import LinearProgram.Main
import LinearProgram.Proofs.BuildOrder
import LinearProgram.Proofs.FailedSolve
import LinearProgram.Proofs.Readback
import LinearProgram.Proofs.Sent
import LinearProgram.Session.Run
import LinearProgram.Proofs.Edits
import LinearProgram.Proofs.Steps
import LinearProgram.Proofs.LastWrite
import LinearProgram.Proofs.References
import LinearProgram.Proofs.Escapes
import LinearProgram.Proofs.Plans
import LinearProgram.Proofs.Closings
import LinearProgram.Proofs.Verdicts
import LinearProgram.Proofs.Settings
import LinearProgram.Proofs.Tuning
import LinearProgram.Proofs.Unsolved
import LinearProgram.Proofs.Histories
import LinearProgram.Proofs.Configured
import LinearProgram.Proofs.Listed
import LinearProgram.Proofs.RowSlices
import LinearProgram.Proofs.Refusals
import LinearProgram.Proofs.Creations
import LinearProgram.Proofs.Additions
import LinearProgram.Proofs.Bounding
import LinearProgram.Proofs.Documents
import LinearProgram.Proofs.Precedence
import LinearProgram.Proofs.Malformed
import LinearProgram.Proofs.Listening
import LinearProgram.Proofs.CuttingModel
import LinearProgram.Proofs.Unambiguous
import LinearProgram.Proofs.ProductionPlan
import LinearProgram.Proofs.Followed
