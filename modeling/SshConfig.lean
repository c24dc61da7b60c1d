import SshConfig.Main
import SshConfig.Proofs.Extension
import SshConfig.Proofs.FailurePath
import SshConfig.Proofs.Advance
import SshConfig.Proofs.WellFormed
import SshConfig.Proofs.Growth
import SshConfig.Proofs.Interruption
import SshConfig.Proofs.Origins
import SshConfig.Proofs.Acyclic
import SshConfig.Proofs.Correspondence
import SshConfig.Proofs.DepthGuard
import SshConfig.Proofs.Quotation
import SshConfig.Proofs.Transparency
import SshConfig.Proofs.Stack
import SshConfig.Proofs.Termination
import SshConfig.Proofs.ArgumentGrammar
import SshConfig.Proofs.Continuation
import SshConfig.Proofs.CommandLine
import SshConfig.Proofs.KeywordLine
import SshConfig.Proofs.LetterCase
import SshConfig.Proofs.Wildcards
import SshConfig.Proofs.Defaults
import SshConfig.Proofs.IncludedPath
import SshConfig.Proofs.ConditionGrammar
import SshConfig.Proofs.HeaderText
import SshConfig.Proofs.Indifference
import SshConfig.Proofs.OptionData
import SshConfig.Proofs.Expansion
import SshConfig.Proofs.Absorption
import SshConfig.Proofs.HeaderEquivalence
import SshConfig.Proofs.Separators
import SshConfig.Proofs.Renumbering
import SshConfig.Proofs.ByteLines
import SshConfig.Proofs.IgnoredLines
import SshConfig.Proofs.Indentation
import SshConfig.Proofs.AskedFiles
import SshConfig.Proofs.OptionGrammar
import SshConfig.Proofs.OptionReading
import SshConfig.Proofs.Consistency
