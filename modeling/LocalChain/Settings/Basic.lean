import LocalChain.Text.Basic

/-!
# Settings

Everything a run can be told, in five sections. Each field's default reproduces the usual local chain,
so that an empty file is a complete configuration.
-/

namespace LocalChain

/-- How to reach the node. -/
structure RpcSettings where
  url : String := "http://localhost:8545"
  /-- The chain that is expected; any chain when unset. -/
  chainId : Option UInt64 := none
  /-- Time allowed to a request that reads, in seconds. -/
  timeoutSecs : UInt64 := 10
  /-- Blocks that must follow a transaction's block before it counts as confirmed. -/
  confirmationBlocks : UInt32 := 0
  /-- Time between two looks for a receipt. -/
  pollIntervalMs : UInt64 := 500
  /-- Time allowed to a confirmation. -/
  confirmationTimeoutSecs : UInt64 := 120
  deriving DecidableEq, Inhabited

/-- The account that signs. A private key that is not blank wins over the phrase. -/
structure AccountSettings where
  mnemonic : String := "test test test test test test test test test test test junk"
  derivationIndex : UInt32 := 0
  privateKey : Option String := none
  deriving DecidableEq, Inhabited

/-- The transfers to issue. -/
structure LoadSettings where
  /-- Recipient of every transfer. -/
  recipient : String := "0x1000000000000000000000000000000000000000"
  /-- Value of each transfer, in ether. -/
  value : String := "0.01"
  gasLimit : UInt64 := 21000
  count : UInt64 := 10000
  intervalMs : UInt64 := 1000
  /-- The gas price; asked of the node when unset. -/
  gasPriceWei : Option UInt64 := none
  /-- How long to wait for replies after the last transfer. -/
  drainTimeoutMs : UInt64 := 1000
  deriving DecidableEq, Inhabited

/-- A token to deploy. -/
structure TokenSettings where
  name : String
  symbol : String
  /-- Initial supply, in ether units. -/
  supply : String := "9999999999999999999"
  deriving DecidableEq, Inhabited

/-- The contracts to deploy. -/
structure DeploySettings where
  /-- Directory that the artifact paths are relative to. -/
  artifactsDir : String := "node_modules"
  wethArtifact : String := "canonical-weth/build/contracts/WETH9.json"
  factoryArtifact : String := "@uniswap/v2-core/build/UniswapV2Factory.json"
  routerArtifact : String := "@uniswap/v2-periphery/build/UniswapV2Router02.json"
  tokenArtifact : String :=
    "@openzeppelin/contracts/build/contracts/ERC20PresetFixedSupply.json"
  gasLimit : UInt64 := 6000000
  /-- The tokens; liquidity is added for the first two. -/
  tokens : List TokenSettings :=
    [⟨"Mehmet", "MEM", "9999999999999999999"⟩, ⟨"New Ether", "NET", "9999999999999999999"⟩]
  /-- Liquidity of each token, in ether units. -/
  liquidityAmount : String := "10000000"
  /-- Time allowed to the transaction that adds liquidity. -/
  deadlineSecs : UInt64 := 200000
  /-- Where to write the record of the deployment. -/
  output : Option String := none
  deriving DecidableEq, Inhabited

/-- What a run reports about itself. -/
structure ObservabilitySettings where
  logLevel : String := "info"
  metricsEnabled : Bool := false
  /-- Where the counters are served. -/
  metricsAddress : String := "0.0.0.0:9090"
  deriving DecidableEq, Inhabited

/-- All sections. -/
structure Settings where
  rpc : RpcSettings := {}
  account : AccountSettings := {}
  load : LoadSettings := {}
  deploy : DeploySettings := {}
  observability : ObservabilitySettings := {}
  deriving DecidableEq, Inhabited

/-- The filter of the event log: warnings of everything, and this program's own events from the
configured level on. -/
def ObservabilitySettings.directives (o : ObservabilitySettings) : String :=
  "warn,devnet_harness=" ++ o.logLevel

/-- The private key, when it is given and not blank. -/
def AccountSettings.key? (a : AccountSettings) : Option String :=
  a.privateKey.filter (!Text.isBlankText ·)

/-- The form of the account section for developers, in which nothing secret shows. -/
def AccountSettings.debug (a : AccountSettings) : String :=
  let key := match a.privateKey with
    | none => "None"
    | some _ => "Some(\"<redacted>\")"
  "AccountConfig \x7b derivation_index: " ++ toString a.derivationIndex.toNat ++
    ", private_key: " ++ key ++ ", .. \x7d"

end LocalChain
