import Testbed.Agent.InMemory
import Testbed.Session.Journal

namespace Testbed.InMemory

open Session

/-- A wait for readiness goes from one tick on until it is settled, or until it is given up at
another. Waits that go on side by side, or beside other orders, are ordered poll by poll. -/
inductive Order where
  | launch (l : Launch)
  | wait (l : Launch) (start cut : Nat)
  | poll (l : Launch) (round : Nat)
  | shutdown (switch : String)
deriving DecidableEq, Repr

def Order.act (setup : AgentSetup) : Order → Journaled AgentState → Journaled AgentState
  | launch l, j => ((Journaled.agent (agent setup)).launch l j).2
  | wait l start cut, j => ((Journaled.agent (agent setup)).awaitReady l cut start j).2.2
  | poll l round, j => ((Journaled.agent (agent setup)).poll l round j).2
  | shutdown switch, j => ((Journaled.agent (agent setup)).shutdown switch j).2

namespace AgentState

def launchesOf (s : AgentState) (switch : String) : Nat :=
  (s.launches.filter (·.switch == switch)).length

def shutdownsOf (s : AgentState) (switch : String) : Nat :=
  (s.shutdowns.filter (· == switch)).length

end AgentState

inductive Record where
  | launched (l : Launch)
  | ended (switch : String)
deriving DecidableEq, Repr

namespace Record

def switch : Record → String
  | launched l => l.switch
  | ended switch => switch

def launch? : Record → Option Launch
  | launched l => some l
  | ended _ => none

def shutdown? : Record → Option String
  | launched _ => none
  | ended switch => some switch

/-- The entry that the records after an order have over those before it. -/
def between? (before after : AgentState) : Option Record :=
  (after.launches[before.launches.length]?.map launched).or
    (after.shutdowns[before.shutdowns.length]?.map ended)

/-- Launches and shutdowns by turns, of which the first is a launch. -/
def InTurn (records : List Record) : Prop :=
  ∀ i r, records[i]? = some r → (r.launch?.isSome ↔ i % 2 = 0)

end Record

/-- The agent with the journal of its calls, and the entries of its records in the order in which
they were made. -/
structure Books where
  journal : Journaled AgentState
  records : List Record

namespace Books

def fresh : Books := ⟨⟨[], .fresh⟩, []⟩

def state (b : Books) : AgentState := b.journal.inner

def calls (b : Books) : List Call := b.journal.calls

def recordsOf (b : Books) (switch : String) : List Record :=
  b.records.filter (·.switch == switch)

def carryOut (setup : AgentSetup) (b : Books) (order : Order) : Books where
  journal := order.act setup b.journal
  records := b.records ++ (Record.between? b.state (order.act setup b.journal).inner).toList

def ofOrders (setup : AgentSetup) (orders : List Order) : Books :=
  orders.foldl (carryOut setup) fresh

end Books

end Testbed.InMemory
