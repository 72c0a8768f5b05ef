import SecureHeaders.Chain.Script
import SecureHeaders.Config.Encode
import SecureHeaders.Http.Run
import SecureHeaders.Json.Reader
import SecureHeaders.Main
import SecureHeaders.Shutdown
import SecureHeaders.Proofs.LateFaults
import SecureHeaders.Proofs.NormalForm
import SecureHeaders.Proofs.RequestId
import SecureHeaders.Proofs.BareMessage
import SecureHeaders.Proofs.ClosedPolicies
import SecureHeaders.Proofs.ListedHeaders
import SecureHeaders.Proofs.SecurityLayer
import SecureHeaders.Proofs.ServedCounts
import SecureHeaders.Proofs.CommandsAgree
import SecureHeaders.Proofs.HeardSignals
import SecureHeaders.Proofs.SoundChannels
import SecureHeaders.Proofs.RepairedConfig
import SecureHeaders.Proofs.ReportedFaults
import SecureHeaders.Proofs.ReorderedHeaders
import SecureHeaders.Proofs.HeaderGrammar
import SecureHeaders.Proofs.RespelledNames
import SecureHeaders.Proofs.JsonListing
import SecureHeaders.Proofs.LayeredChains
import SecureHeaders.Proofs.LoggedId
import SecureHeaders.Proofs.PolicySpelling
import SecureHeaders.Proofs.EditedDocument
import SecureHeaders.Proofs.FilledDefaults
import SecureHeaders.Proofs.HonestWrites
