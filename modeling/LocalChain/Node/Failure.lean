import LocalChain.ChainError
import LocalChain.Json.Printer

/-!
# Requests that fail

A request fails because the node answers it with an error, or because no answer to it comes back at all.
The first is a rejection with the node's own code and sentence; everything else is a failure of the
request.
-/

namespace LocalChain

/-- Why a request failed. -/
inductive RequestFailure where
  /-- The node answered with an error. -/
  | refused (code : Int) (message : String) (data : Option Json)
  /-- What came back is no answer, or an answer of the wrong kind. -/
  | badResponse
  /-- The node could not be reached. -/
  | unreachable
  /-- The request was not made because it makes no sense. -/
  | usage (text : String)

namespace RequestFailure

/-- The sentence for people. -/
def message : RequestFailure → String
  | refused code m data =>
    "server returned an error response: error code " ++ toString code ++ ": " ++ m ++
      data.elim "" fun d => ", data: " ++ String.ofList d.compact
  | badResponse => "the response is no answer to the request"
  | unreachable => "error sending request"
  | usage text => "local usage error: " ++ text

/-- The failure as one of the chain. -/
def toChainError : RequestFailure → ChainError
  | refused code m _ => .rejected code m
  | f => .rpc f.message

end RequestFailure
end LocalChain
