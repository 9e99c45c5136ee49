import LocalChain.Journal.Event

/-!
# The journal of a run

Events in the order in which they happen, and among them the counters that go up. What a counter stands
at in the end is how often it went up.
-/

namespace LocalChain

/-- Something that is counted. -/
inductive Counter where
  /-- Transfers that were started. -/
  | scheduled
  /-- Replies to transfers, by whether the node took them. -/
  | replied (sent : Bool)
  /-- Contracts with a name that were created. -/
  | deployed (contract : String)
  deriving DecidableEq

/-- The name under which a counter is served. -/
def Counter.name : Counter → String
  | scheduled => "devnet_submissions_scheduled_total"
  | replied true => "devnet_submissions_total\x7boutcome=sent\x7d"
  | replied false => "devnet_submissions_total\x7boutcome=failed\x7d"
  | deployed contract => "devnet_contracts_deployed_total\x7bcontract=" ++ contract ++ "\x7d"

/-- One entry of a journal. -/
inductive Entry where
  | event (e : Event)
  /-- The counter goes up by one. -/
  | count (c : Counter)

/-- Entries in the order in which they were made. -/
abbrev Journal := List Entry

namespace Journal

/-- The events. -/
def events (j : Journal) : List Event :=
  j.filterMap fun
    | .event e => some e
    | .count _ => none

/-- The counters that went up, once for each time. -/
def counted (j : Journal) : List Counter :=
  j.filterMap fun
    | .event _ => none
    | .count c => some c

/-- What a counter stands at in the end. -/
def total (j : Journal) (c : Counter) : Nat :=
  j.counted.count c

/-- The counters that went up at all, with what they stand at. -/
def totals (j : Journal) : List (Counter × Nat) :=
  j.counted.eraseDups.map fun c => (c, j.total c)

end Journal
end LocalChain
