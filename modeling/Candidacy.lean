import Candidacy.Dossier.Json
import Candidacy.Flow.Json
import Candidacy.Main
import Candidacy.Proofs.Acceptance
import Candidacy.Proofs.Numbering
import Candidacy.Proofs.Ledger
import Candidacy.Proofs.Justification
import Candidacy.Proofs.Finality
import Candidacy.Proofs.Precedence
import Candidacy.Proofs.Addressing
import Candidacy.Proofs.Enrolment
import Candidacy.Proofs.Independence
import Candidacy.Proofs.Frame
import Candidacy.Proofs.Transitions
import Candidacy.Proofs.WrittenFlow
import Candidacy.Proofs.Dialogue
import Candidacy.Proofs.Redoing
import Candidacy.Proofs.EpochNumbers
import Candidacy.Proofs.WrittenInstants
import Candidacy.Proofs.Comparison
import Candidacy.Proofs.Namesakes
import Candidacy.Proofs.StrictForm
import Candidacy.Proofs.RereadDrafts
import Candidacy.Proofs.WrittenVerdict
import Candidacy.Proofs.Lookup
