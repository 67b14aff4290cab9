import BigScript.Main
import BigScript.Net.Echo
import BigScript.Proofs.Acceptance
import BigScript.Proofs.Arguments
import BigScript.Proofs.BareFormula
import BigScript.Proofs.BlockExtent
import BigScript.Proofs.BugProtocol
import BigScript.Proofs.CallDepth
import BigScript.Proofs.CappedLoop
import BigScript.Proofs.Chain
import BigScript.Proofs.Checked.Run
import BigScript.Proofs.Cipher.Decryption
import BigScript.Proofs.Comparison
import BigScript.Proofs.Diagnostics.Report
import BigScript.Proofs.Easing
import BigScript.Proofs.ElementSearch
import BigScript.Proofs.Expression.Written
import BigScript.Proofs.FileCopy
import BigScript.Proofs.FilePlace
import BigScript.Proofs.FunctionResult
import BigScript.Proofs.Healing.ClosedRun
import BigScript.Proofs.Interpolation
import BigScript.Proofs.Invocation
import BigScript.Proofs.Isolation
import BigScript.Proofs.KeyFile
import BigScript.Proofs.Lexemes
import BigScript.Proofs.LoopExit
import BigScript.Proofs.LoopOrigin
import BigScript.Proofs.LoopWords
import BigScript.Proofs.LooseItems
import BigScript.Proofs.Position
import BigScript.Proofs.Quotation
import BigScript.Proofs.RandomRange
import BigScript.Proofs.ReadBack
import BigScript.Proofs.Reception
import BigScript.Proofs.Selection
import BigScript.Proofs.Service.Acknowledgement
import BigScript.Proofs.Service.Creation
import BigScript.Proofs.Service.Deployment
import BigScript.Proofs.Service.Interleaving
import BigScript.Proofs.Service.Layers
import BigScript.Proofs.Service.Refusals
import BigScript.Proofs.Service.ScriptNames
import BigScript.Proofs.Service.StoppedRun
import BigScript.Proofs.Session
import BigScript.Proofs.SourceNesting
import BigScript.Proofs.Structured.Refinement
import BigScript.Proofs.Substitution
import BigScript.Proofs.Target.Rejection
import BigScript.Proofs.Termination
import BigScript.Proofs.TextBuilder
import BigScript.Service.Answer
import BigScript.Service.Flags
import BigScript.Service.Scheduler
