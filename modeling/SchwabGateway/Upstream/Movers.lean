import SchwabGateway.Upstream.OptionContract
import SchwabGateway.Upstream.SessionHistory
import SchwabGateway.Upstream.Spot

set_option autoImplicit false

namespace SchwabGateway.Upstream

open SchwabGateway.Python

inductive MoverIndex where
  | dji
  | compx
  | spx
  | nyse
  | nasdaq
  | otcbb
  | indexAll
  | equityAll
  | optionAll
  | optionPut
  | optionCall
deriving DecidableEq

inductive Direction where
  | up
  | down
deriving DecidableEq

structure MoverV1 where
  symbol : String
  lastPrice : Option PyFloat
  change : Option PyFloat
  changePercent : Option PyFloat
  volume : Option Nat
deriving DecidableEq

structure MoversV1 extends Freshness where
  index : MoverIndex
  direction : Direction
  movers : List MoverV1
  gatewayReceivedAt : Datetime
  source : String
deriving DecidableEq

def moverVolumeMessage : String := "mover volume must be nonnegative"

section Reading

variable (literals : Literals)

def firstNumber (payload : Payload) : List String → Result (Option PyFloat)
  | [] => return none
  | name :: rest => do
      match ← number literals payload name with
      | some value => return some value
      | none => firstNumber payload rest

def firstInteger (payload : Payload) : List String → Result (Option Int)
  | [] => return none
  | name :: rest => do
      match ← integer literals payload name with
      | some value => return some value
      | none => firstInteger payload rest

def moverOf (symbol : String) (item : Payload) : Result MoverV1 := do
  let lastPrice ← firstNumber literals item ["lastPrice", "last"]
  let change ← firstNumber literals item ["change", "netChange"]
  let changePercent ← firstNumber literals item ["changePercent", "netPercentChange"]
  let volume ← firstInteger literals item ["totalVolume", "volume"]
  let volume ← nullable (count "volume" moverVolumeMessage) volume
  return { symbol, lastPrice, change, changePercent, volume }

-- item.get("symbol") or item.get("ticker"), if it names something.
def moverSymbol (item : Payload) : Option String :=
  match orElse (PyValue.get item "symbol") (PyValue.get item "ticker") with
  | .str symbol => if symbol = "" then none else some symbol
  | _ => none

-- _mover_from_item: none is a malformed item.
def moverFromItem : PyValue → Result (Option MoverV1)
  | .dict item =>
      match moverSymbol item with
      | none => return none
      | some symbol => dropInvalid (moverOf literals symbol item)
  | _ => return none

def collectMovers : List PyValue → Result (List MoverV1)
  | [] => return []
  | item :: rest => do
      let mover ← moverFromItem literals item
      let movers ← collectMovers rest
      return mover.toList ++ movers

def normalizeMovers (index : MoverIndex) (direction : Direction) (items : PyValue)
    (receivedAt : Datetime) : Result MoversV1 :=
  match items with
  | .list items => do
      let movers ← collectMovers literals items
      return {
        eventTimestamp := none
        ageSeconds := none
        stale := true
        dataQualityFlags := flagIf (movers.length ≠ items.length) "malformed_movers_dropped" ++
          ["missing_event_timestamp", "stale"]
        index := index
        direction := direction
        movers := movers
        gatewayReceivedAt := receivedAt
        source := "schwab_rest_movers" }
  | _ => .error (.valueError "movers response was not a list of movers")

end Reading

end SchwabGateway.Upstream
