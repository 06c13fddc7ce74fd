import OpenBanking.Gateway.Script
import OpenBanking.Json.MapKey
import OpenBanking.Proofs.Alias.Preimage
import OpenBanking.Proofs.Alias.Use
import OpenBanking.Proofs.Catalogue
import OpenBanking.Proofs.Client.Delegation
import OpenBanking.Proofs.Gateway.Traffic
import OpenBanking.Proofs.Keys.Matching
import OpenBanking.Proofs.Membership.Bootstrap
import OpenBanking.Proofs.Membership.Headers
import OpenBanking.Proofs.Membership.Onboarding
import OpenBanking.Proofs.Purpose
import OpenBanking.Proofs.Recovery.Agreement
import OpenBanking.Proofs.TokenRequest.Amount
import OpenBanking.Proofs.TokenRequest.CallbackState
import OpenBanking.Proofs.TokenRequest.Retrieval
import OpenBanking.Proofs.Client.Balances
import OpenBanking.Proofs.Alias.Lookup
import OpenBanking.Proofs.Json.Passed
import OpenBanking.Proofs.Json.RecordText
import OpenBanking.Proofs.Gateway.Failure
import OpenBanking.Proofs.Text.Lossy
import OpenBanking.Proofs.Spelling
import OpenBanking.Proofs.TokenRequest.ExecutionDate
import OpenBanking.Proofs.Keys.Description
import OpenBanking.Proofs.Configuration
import OpenBanking.Proofs.Member.Steps
import OpenBanking.Proofs.Names
