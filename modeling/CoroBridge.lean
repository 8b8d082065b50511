import CoroBridge.Main
import CoroBridge.Proofs.ArgumentList
import CoroBridge.Proofs.Command
import CoroBridge.Proofs.Comment
import CoroBridge.Proofs.CrossCheck
import CoroBridge.Proofs.FileEnd
import CoroBridge.Proofs.Forwarding
import CoroBridge.Proofs.Fragment
import CoroBridge.Proofs.Inert
import CoroBridge.Proofs.LineBreak
import CoroBridge.Proofs.Linkage
import CoroBridge.Proofs.Log
import CoroBridge.Proofs.Notice
import CoroBridge.Proofs.Outcome
import CoroBridge.Proofs.Overlap
import CoroBridge.Proofs.Recovery
import CoroBridge.Proofs.Redeclare
import CoroBridge.Proofs.Scope
import CoroBridge.Proofs.Seam
import CoroBridge.Proofs.Tokens
import CoroBridge.Proofs.Typedef
import CoroBridge.Proofs.Unnamed
import CoroBridge.Proofs.Verdict
import CoroBridge.Shell.Script
import CoroBridge.Site.Lemmas
