import Opentrons.DiscoveryClient.Reducer

/-!
# Selectors

`store/selectors.ts` is not in the source snapshot; its selectors test is.
The two selectors below are modelled from the spec and agree with that test:
robot states in key order, and the poll list of every host address followed
by the manual addresses.
-/

namespace Opentrons.DiscoveryClient

set_option autoImplicit false

/-- Modelled from the spec: `getRobotStates`, every robot state in key order. -/
def getRobotStates (state : State) : List RobotState := state.robotsByName.entries.map Prod.snd

/-- Modelled from the spec: `getHostStates`, every host state in key order. -/
def getHostStates (state : State) : List HostState := state.hostsByIp.entries.map Prod.snd

/-- Modelled from the spec: `getAddresses`, the poll list: every host's
`{ ip, port }` and then the manual addresses, in map and array order. The
selectors test lists an address that is both a host and a manual address once,
so repeats are dropped. -/
def getAddresses (state : State) : List Address :=
  ((getHostStates state).map (fun host => Address.mk host.ip host.port) ++
    state.manualAddresses).eraseDups

end Opentrons.DiscoveryClient
