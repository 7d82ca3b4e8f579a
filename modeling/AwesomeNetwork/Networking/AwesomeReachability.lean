import AwesomeNetwork.Library.Transition

/-! # The reachability of the network

The flags of the system decide the connection. A change of them hands one of two handlers
to the main queue, and the handler hands over a block that posts an event. A step is a
change, a check or one block of the main queue.
-/

namespace AwesomeNetwork

/-- `AwesomeReachability.Connection`. -/
inductive Connection where
  | none
  | wifi
  | cellular
deriving DecidableEq, Repr

/-- `SCNetworkReachabilityFlags`. -/
structure SCNetworkReachabilityFlags where
  reachable : Bool := false
  transientConnection : Bool := false
  connectionRequired : Bool := false
  connectionOnTraffic : Bool := false
  interventionRequired : Bool := false
  connectionOnDemand : Bool := false
  isLocalAddress : Bool := false
  isDirect : Bool := false
  isWWAN : Bool := false
deriving DecidableEq, Repr

/-- The handlers that `startNetworkStateNotifier` installs. -/
inductive NetworkHandler where
  | whenReachable
  | whenUnreachable
deriving DecidableEq, Repr

/-- `AwesomeReachability`, with the flags that the system has for it. -/
structure AwesomeReachability where
  flags : SCNetworkReachabilityFlags
  runsOnIOS : Bool
  isRunningOnDevice : Bool
  allowsCellularConnection : Bool
  previousFlags : Option SCNetworkReachabilityFlags
  notifierRunning : Bool
  whenReachable : Option NetworkHandler
  whenUnreachable : Option NetworkHandler
deriving DecidableEq, Repr

namespace AwesomeReachability

/-- `isOnWWANFlagSet`, which is false off iOS. -/
def isOnWWANFlagSet (reachability : AwesomeReachability) : Bool :=
  reachability.runsOnIOS && reachability.flags.isWWAN

/-- `isConnectionOnTrafficOrDemandFlagSet`. -/
def isConnectionOnTrafficOrDemandFlagSet (reachability : AwesomeReachability) : Bool :=
  reachability.flags.connectionOnTraffic || reachability.flags.connectionOnDemand

/-- `connection`. -/
def connection (reachability : AwesomeReachability) : Connection :=
  if reachability.flags.reachable = false then .none
  else if reachability.isRunningOnDevice = false then .wifi
  else
    let connection := Connection.none
    let connection := if reachability.flags.connectionRequired then connection else .wifi
    let connection :=
      if reachability.isConnectionOnTrafficOrDemandFlagSet then
        if reachability.flags.interventionRequired then connection else .wifi
      else connection
    if reachability.isOnWWANFlagSet then
      if reachability.allowsCellularConnection then .cellular else .none
    else connection

/-- A new object, before anything was reported. -/
def new (flags : SCNetworkReachabilityFlags) (runsOnIOS isRunningOnDevice : Bool) :
    AwesomeReachability where
  flags := flags
  runsOnIOS := runsOnIOS
  isRunningOnDevice := isRunningOnDevice
  allowsCellularConnection := true
  previousFlags := .none
  notifierRunning := false
  whenReachable := .none
  whenUnreachable := .none

end AwesomeReachability

/-- `AwesomeNetworkStateEvent`. -/
inductive AwesomeNetworkStateEvent where
  | connected
  | disconnected
deriving DecidableEq, Repr

/-- A block of the main queue: the call of a handler, or what the handler hands over. -/
inductive ReachabilityBlock where
  | call (block : Option NetworkHandler)
  | handler (handler : NetworkHandler)
deriving DecidableEq, Repr

/-- The network with the main queue and the events posted. -/
structure NetworkState where
  reachability : Option AwesomeReachability
  mainQueue : List ReachabilityBlock
  posted : List AwesomeNetworkStateEvent
deriving DecidableEq, Repr

namespace NetworkState

/-- A change of the flags, a check, or a block of the main queue. -/
inductive Label where
  | changed (flags : SCNetworkReachabilityFlags)
  | check
  | runMain
deriving DecidableEq, Repr

/-- `startNetworkStateNotifier()`, where `starts` says whether the notifier can be started. -/
def startNetworkStateNotifier (network : NetworkState) (starts : Bool) : NetworkState :=
  { network with
    reachability := network.reachability.map fun reachability =>
      { reachability with
        whenReachable := some .whenReachable
        whenUnreachable := some .whenUnreachable
        notifierRunning := reachability.notifierRunning || starts } }

/-- `isReachable`: the comparison is one of optionals, so that `none` is no object. -/
def isReachable (network : NetworkState) : Bool :=
  network.reachability.map AwesomeReachability.connection ≠ none

/-- `AwesomeReachabilityChanged()`. -/
def reachabilityChanged (network : NetworkState) (reachability : AwesomeReachability) :
    NetworkState :=
  if reachability.previousFlags = some reachability.flags then network
  else
    let block :=
      if reachability.connection ≠ .none then reachability.whenReachable
      else reachability.whenUnreachable
    { network with
      reachability := some { reachability with previousFlags := some reachability.flags }
      mainQueue := network.mainQueue ++ [.call block] }

/-- A block of a handler posts its event, for `whenReachable` only with a connection. -/
def runHandler (network : NetworkState) : NetworkHandler → NetworkState
  | .whenReachable =>
      match network.reachability with
      | some reachability =>
          if reachability.connection ≠ .none then
            { network with posted := network.posted ++ [.connected] }
          else network
      | none => network
  | .whenUnreachable => { network with posted := network.posted ++ [.disconnected] }

/-- One step of the network. -/
def step (network : NetworkState) : Label → Option NetworkState
  | .changed flags =>
      match network.reachability with
      | some reachability =>
          let changed := { reachability with flags := flags }
          let network := { network with reachability := some changed }
          if reachability.notifierRunning then some (network.reachabilityChanged changed)
          else some network
      | none => none
  | .check =>
      match network.reachability with
      | some reachability =>
          if reachability.notifierRunning then some (network.reachabilityChanged reachability)
          else none
      | none => none
  | .runMain =>
      match network.mainQueue with
      | [] => none
      | .call block :: rest =>
          some { network with
            mainQueue := rest ++ (block.toList.map ReachabilityBlock.handler) }
      | .handler handler :: rest => some ({ network with mainQueue := rest }.runHandler handler)

end NetworkState

end AwesomeNetwork
