import LocalChain.Abi.Basic

/-!
# Creations and calls of contracts

The arguments that follow the code of each contract of a deployment, and the functions that it calls, with
their arguments and what they return. A call's data begin with the four bytes that select the function.
-/

namespace LocalChain.Contract

/-! ## What contracts are created with -/

/-- A factory takes the account that may direct its fees. -/
def factoryArguments (feeToSetter : Address) : Bytes :=
  Abi.encode [Abi.ofAddress feeToSetter]

/-- A router takes its factory and the contract of wrapped ether. -/
def routerArguments (factory weth : Address) : Bytes :=
  Abi.encode [Abi.ofAddress factory, Abi.ofAddress weth]

/-- A token takes its name and symbol, and its first supply with the owner of it. -/
def tokenArguments (name symbol : String) (supply : Word) (owner : Address) : Bytes :=
  Abi.encode [.text name, .text symbol, .word supply, Abi.ofAddress owner]

/-! ## Calls -/

/-- A function of a contract. -/
inductive Method where
  /-- Of a token: lets somebody spend an amount of the caller's. -/
  | approve
  /-- Of a factory: the contract of the pair of two tokens. -/
  | getPair
  /-- Of a pair: what it holds of its tokens. -/
  | getReserves
  /-- Of a router: puts amounts of two tokens into their pair. -/
  | addLiquidity
  deriving DecidableEq

namespace Method

/-- The name with the types of the arguments. -/
def signature : Method → String
  | approve => "approve(address,uint256)"
  | getPair => "getPair(address,address)"
  | getReserves => "getReserves()"
  | addLiquidity =>
    "addLiquidity(address,address,uint256,uint256,uint256,uint256,address,uint256)"

/-- The first four bytes of the signature's digest. -/
def selector : Method → Bytes
  | approve => [0x09, 0x5e, 0xa7, 0xb3]
  | getPair => [0xe6, 0xa4, 0x39, 0x05]
  | getReserves => [0x09, 0x02, 0xf1, 0xac]
  | addLiquidity => [0xe8, 0xe3, 0x37, 0x00]

/-- The number of arguments, each of which is a word. -/
def arity : Method → Nat
  | approve => 2
  | getPair => 2
  | getReserves => 0
  | addLiquidity => 8

end Method

/-- The terms on which liquidity is added. -/
structure LiquidityTerms where
  tokenA : Address
  tokenB : Address
  amountADesired : Word
  amountBDesired : Word
  amountAMin : Word
  amountBMin : Word
  /-- Who gets the shares. -/
  recipient : Address
  /-- The second after which nothing is added. -/
  deadline : Word
  deriving DecidableEq

/-- A function with its arguments. -/
inductive Call where
  | approve (spender : Address) (amount : Word)
  | getPair (tokenA tokenB : Address)
  | getReserves
  | addLiquidity (terms : LiquidityTerms)
  deriving DecidableEq

namespace Call

/-- The function that is called. -/
def method : Call → Method
  | approve .. => .approve
  | getPair .. => .getPair
  | getReserves => .getReserves
  | addLiquidity .. => .addLiquidity

/-- The arguments in order. -/
def arguments : Call → List Abi.Value
  | approve spender amount => [Abi.ofAddress spender, .word amount]
  | getPair tokenA tokenB => [Abi.ofAddress tokenA, Abi.ofAddress tokenB]
  | getReserves => []
  | addLiquidity t =>
    [Abi.ofAddress t.tokenA, Abi.ofAddress t.tokenB, .word t.amountADesired, .word t.amountBDesired,
      .word t.amountAMin, .word t.amountBMin, Abi.ofAddress t.recipient, .word t.deadline]

/-- The data of a call. -/
def input (c : Call) : Bytes :=
  c.method.selector ++ Abi.encode c.arguments

/-- The call of a function with arguments in words. -/
def ofArguments : Method → List Abi.Value → Option Call
  | .approve, [.word spender, .word amount] => some (.approve (Abi.toAddress spender) amount)
  | .getPair, [.word tokenA, .word tokenB] =>
    some (.getPair (Abi.toAddress tokenA) (Abi.toAddress tokenB))
  | .getReserves, [] => some .getReserves
  | .addLiquidity, [.word tokenA, .word tokenB, .word amountADesired, .word amountBDesired,
      .word amountAMin, .word amountBMin, .word recipient, .word deadline] =>
    some (.addLiquidity {
      tokenA := Abi.toAddress tokenA
      tokenB := Abi.toAddress tokenB
      amountADesired, amountBDesired, amountAMin, amountBMin
      recipient := Abi.toAddress recipient
      deadline })
  | _, _ => none

/-- The call of a function that some data are. -/
def decode (m : Method) (data : Bytes) : Option Call := do
  guard (data.take 4 = m.selector)
  ofArguments m (← Abi.decode (List.replicate m.arity .word) (data.drop 4))

end Call

/-! ## What calls return -/

/-- So many words that some data begin with. -/
def words? (count : Nat) (data : Bytes) : Option (List Word) := do
  let values ← Abi.decode (List.replicate count .word) data
  values.mapM fun
    | .word w => some w
    | .text _ => none

/-- What an approval returns: any word but zero is true. -/
def approval? (data : Bytes) : Option Bool := do
  match ← words? 1 data with
  | [w] => some (w != 0)
  | _ => none

/-- What a factory returns for two tokens. -/
def pair? (data : Bytes) : Option Address := do
  match ← words? 1 data with
  | [w] => some (Abi.toAddress w)
  | _ => none

/-- What a pair holds of its tokens, and when that last changed. -/
structure Reserves where
  reserve0 : BitVec 112
  reserve1 : BitVec 112
  timestamp : UInt32
  deriving DecidableEq

/-- The data in which a pair returns what it holds. -/
def Reserves.encode (r : Reserves) : Bytes :=
  Abi.encode [.word (r.reserve0.setWidth 256), .word (r.reserve1.setWidth 256),
    .word (BitVec.ofNat 256 r.timestamp.toNat)]

/-- What a pair returns. -/
def reserves? (data : Bytes) : Option Reserves := do
  match ← words? 3 data with
  | [a, b, t] => some ⟨a.setWidth 112, b.setWidth 112, UInt32.ofNat t.toNat⟩
  | _ => none

/-- What a router returns: what it took of each token, and the shares it gave. -/
def liquidity? (data : Bytes) : Option (Word × Word × Word) := do
  match ← words? 3 data with
  | [a, b, shares] => some (a, b, shares)
  | _ => none

end LocalChain.Contract
