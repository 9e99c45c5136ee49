import LocalChain.Address
import LocalChain.Ether
import LocalChain.Node.Failure
import LocalChain.Text.Forms

/-!
# Events

What a run reports while it goes on. An event has a level, a sentence and fields, all of which are texts
that follow from the event itself; addresses are shown with their checksum.
-/

namespace LocalChain

/-- How much an event matters. -/
inductive Level where
  | info
  | warn
  | error
  deriving DecidableEq, Repr

/-- The name of a level. -/
def Level.name : Level → String
  | info => "INFO"
  | warn => "WARN"
  | error => "ERROR"

/-- Something worth reporting. -/
inductive Event where
  /-- A run begins. -/
  | starting (url : String)
  /-- The counters cannot be served where they should be. -/
  | badMetricsAddress (address : String)
  | walletReady (address : Address)
  | connected (url : String) (chainId : UInt64)
  | requestFailed (request : String) (failure : RequestFailure)
  | requestTimedOut (request : String)
  | gasPriceFixed (price : Nat)
  /-- A run of transfers cannot begin. -/
  | nonceUnknown (error : ChainError)
  /-- A run of transfers begins. -/
  | sending (count intervalMs baseNonce : UInt64) (recipient : Address)
  | scheduling (index nonce : UInt64)
  /-- Every transfer of a run has been started. -/
  | allScheduled (count : UInt64)
  /-- The node took a transfer. -/
  | sent (index nonce : UInt64) (hash : TxHash)
  /-- A transfer came to nothing. -/
  | failed (index nonce : UInt64) (error : ChainError)
  | allReplied (sent failed : Nat)
  | repliesOutstanding (drainTimeoutMs : UInt64)
  | deploying (deployer : Address) (chainId : UInt64)
  | deployed (contract : String) (address : Address) (hash : TxHash) (gasUsed : UInt64)
  | tokenDeployed (symbol : String) (address : Address)
  | confirmed (call : String) (hash : TxHash) (block : Option UInt64)
  /-- A step failed and is tried again as a call. -/
  | replaying (call : String) (error : String)
  | wentWrong (call reason : String)
  | pairReserves (pair : Address) (reserve0 reserve1 : Word)
  | recordWritten (path : String)
  | deploymentFailed (error : String)
  | liquidityFailed (error : String)

/-- In which stage a transfer failed: at the node, on the way, when it was signed, or elsewhere. -/
def ChainError.stage : ChainError → String
  | .rejected .. => "rejected"
  | .rpc _ | .timeout _ => "rpc"
  | .wallet _ => "signing"
  | _ => "other"

namespace Event

/-- How much an event matters. -/
def level : Event → Level
  | requestFailed .. | requestTimedOut .. | replaying .. | repliesOutstanding .. => .warn
  | nonceUnknown .. | failed .. | wentWrong .. | badMetricsAddress .. | deploymentFailed ..
  | liquidityFailed .. => .error
  | _ => .info

/-- A number as text. -/
def number (n : UInt64) : String :=
  toString n.toNat

/-- The sentence. -/
def message : Event → String
  | starting _ => "devnet-harness v0.1.0 starting"
  | badMetricsAddress _ => "Failed to parse metrics address"
  | walletReady _ => "Wallet initialized"
  | connected .. => "Connected to chain"
  | requestFailed .. => "RPC error"
  | requestTimedOut _ => "RPC timeout"
  | gasPriceFixed _ => "Transfer gas price fixed"
  | nonceUnknown _ => "Could not fetch the account nonce"
  | sending count .. => "Sending up to " ++ number count ++ " txs"
  | scheduling index _ => "Scheduling tx #" ++ number index
  | allScheduled _ => "Done scheduling txs"
  | sent index _ hash => "tx #" ++ number index ++ " sent: " ++ hash.text
  | failed index .. => "error on tx #" ++ number index
  | allReplied .. => "All replies received"
  | repliesOutstanding _ => "Exiting with replies still outstanding"
  | deploying .. => "Deploying Uniswap V2 environment"
  | deployed contract address .. => contract ++ " address: " ++ address.display
  | tokenDeployed symbol address => symbol ++ " Token address: " ++ address.display
  | confirmed .. => "Transaction confirmed"
  | replaying .. => "Transaction failed, replaying as a call to see why"
  | wentWrong call _ => call ++ " went wrong"
  | pairReserves .. => "Pair reserves"
  | recordWritten _ => "Deployed addresses written"
  | deploymentFailed _ => "Deployment went wrong"
  | liquidityFailed _ => "Adding liquidity went wrong"

/-- The fields by name. -/
def fields : Event → List (String × String)
  | starting url => [("rpc_url", url)]
  | badMetricsAddress address => [("metrics_address", address)]
  | walletReady address => [("address", address.display)]
  | connected url chainId => [("rpc_url", url), ("chain_id", number chainId)]
  | requestFailed request failure => [("request", request), ("error", failure.message)]
  | requestTimedOut request => [("request", request)]
  | gasPriceFixed price => [("gas_price_wei", toString price)]
  | nonceUnknown error => [("error", error.message)]
  | sending count intervalMs baseNonce recipient =>
    [("count", number count), ("interval", Text.duration intervalMs.toNat),
      ("base_nonce", number baseNonce), ("to", recipient.display)]
  | scheduling index nonce => [("index", number index), ("nonce", number nonce)]
  | allScheduled count => [("scheduled", number count)]
  | sent index nonce hash =>
    [("index", number index), ("nonce", number nonce), ("tx_hash", hash.text)]
  | failed index nonce error =>
    [("index", number index), ("nonce", number nonce), ("kind", error.stage),
      ("error", error.message)]
  | allReplied taken lost => [("sent", toString taken), ("failed", toString lost)]
  | repliesOutstanding drainTimeoutMs => [("drain_timeout_ms", number drainTimeoutMs)]
  | deploying deployer chainId =>
    [("deployer", deployer.display), ("chain_id", number chainId)]
  | deployed contract address hash gasUsed =>
    [("contract", contract), ("address", address.display), ("tx_hash", hash.text),
      ("gas_used", number gasUsed)]
  | tokenDeployed symbol address => [("symbol", symbol), ("address", address.display)]
  | confirmed call hash block =>
    [("call", call), ("tx_hash", hash.text)] ++ block.toList.map fun b => ("block", number b)
  | replaying call error => [("call", call), ("error", error)]
  | wentWrong call reason => [("call", call), ("reason", reason)]
  | pairReserves pair reserve0 reserve1 =>
    [("pair", pair.display), ("reserve0", Ether.format reserve0),
      ("reserve1", Ether.format reserve1)]
  | recordWritten path => [("path", path)]
  | deploymentFailed error => [("error", error)]
  | liquidityFailed error => [("error", error)]

end Event
end LocalChain
