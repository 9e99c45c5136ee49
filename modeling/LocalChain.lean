import LocalChain.Main
import LocalChain.Settings.Writing
import LocalChain.Proofs.Issuance.Outcomes
import LocalChain.Proofs.Deployment.Transactions
import LocalChain.Proofs.Deployment.Chains
import LocalChain.Proofs.Spam.Completion
import LocalChain.Proofs.Settings.Failures
import LocalChain.Proofs.Settings.Layering
import LocalChain.Proofs.Settings.Overlay
import LocalChain.Proofs.Contract.Data
import LocalChain.Proofs.Deployment.Records
import LocalChain.Proofs.Json.Columns
import LocalChain.Proofs.Client.Verdicts
import LocalChain.Proofs.Deployment.Diagnosis
import LocalChain.Proofs.Settings.Amounts
import LocalChain.Proofs.Contract.Code
import LocalChain.Proofs.Deployment.Liquidity
import LocalChain.Proofs.Settings.Checks
import LocalChain.Proofs.Settings.Planning
import LocalChain.Proofs.Account.Choice
import LocalChain.Proofs.Client.Operations
import LocalChain.Proofs.Issuance.Recording
import LocalChain.Proofs.Deployment.Reserves
import LocalChain.Proofs.Settings.Recipients
import LocalChain.Proofs.Account.Secrecy
