import CompilerDriver.Main
import CompilerDriver.Session
import CompilerDriver.Proofs.Pipeline.Execution
import CompilerDriver.Proofs.Pipeline.Course
import CompilerDriver.Proofs.Pipeline.Verdict
import CompilerDriver.Proofs.FileSystem.Vacancy
import CompilerDriver.Proofs.Path.FileName
import CompilerDriver.Proofs.Source.Names
import CompilerDriver.Proofs.Pipeline.Cleanup
import CompilerDriver.Proofs.Pipeline.Input
import CompilerDriver.Proofs.Pipeline.Failures
import CompilerDriver.Proofs.Text.Utf8
import CompilerDriver.Proofs.Source.Shape
import CompilerDriver.Proofs.Compilation.Run
import CompilerDriver.Proofs.Status.Report
import CompilerDriver.Proofs.Program.Account
import CompilerDriver.Proofs.Program.ExitCode
import CompilerDriver.Proofs.Source.Anchor
import CompilerDriver.Proofs.Source.Form
import CompilerDriver.Proofs.Source.Reopening
import CompilerDriver.Proofs.Source.Directory
import CompilerDriver.Proofs.CommandLine.StopFlags
import CompilerDriver.Proofs.Program.Commands
import CompilerDriver.Proofs.Program.Logging
import CompilerDriver.Proofs.CommandLine.Meaning
import CompilerDriver.Proofs.CommandLine.Verbosity
import CompilerDriver.Proofs.Pipeline.Leftovers
import CompilerDriver.Proofs.Pipeline.Concurrency
import CompilerDriver.Proofs.Pipeline.Keeping
import CompilerDriver.Proofs.Pipeline.Discarding
import CompilerDriver.Proofs.Program.Precedence
import CompilerDriver.Proofs.Pipeline.Milestones
import CompilerDriver.Proofs.Path.Spelling
import CompilerDriver.Proofs.FileSystem.Steps
import CompilerDriver.Proofs.Source.Sameness
