import Mathlib.Data.Finmap
import Opentrons.DiscoveryClient.ObjectMap

/-!
# Store records and actions

The records of the discovery-client store and the payloads of its four
actions, as `store/reducer.ts` reads them. `store/types.ts` and
`store/actions.ts` are not in the source snapshot, so the shapes are the ones
the reducer destructures. Health bodies keep `name`, the one field the store
reads; their other fields, like those a seeded robot carries beyond its
identity, are only stored and compared by lodash `isEqual`, which ignores the
order an object lists its keys in. They are kept as a `Finmap`, whose equality
ignores that order too.
-/

namespace Opentrons.DiscoveryClient

set_option autoImplicit false

inductive HealthStatus where
  | ok
  | notOk
  | unreachable
  deriving DecidableEq

/-- Fields of a JSON object, each under its own key, in no order; a value
stands for the JSON value it serialises. -/
abbrev Fields := Finmap fun _ : String => String

structure HealthResponse where
  name : String
  rest : Fields
  deriving DecidableEq

structure ServerHealthResponse where
  name : String
  rest : Fields
  deriving DecidableEq

structure HealthErrorResponse where
  status : Int
  body : String
  deriving DecidableEq

structure Address where
  ip : String
  port : Nat
  deriving DecidableEq

structure RobotState where
  name : String
  health : Option HealthResponse
  serverHealth : Option ServerHealthResponse
  extra : Fields
  deriving DecidableEq

structure HostState where
  ip : String
  port : Nat
  robotName : Option String
  seen : Bool
  healthStatus : Option HealthStatus
  serverHealthStatus : Option HealthStatus
  healthError : Option HealthErrorResponse
  serverHealthError : Option HealthErrorResponse
  deriving DecidableEq

structure DiscoveryClientRobot where
  name : String
  health : Option HealthResponse
  serverHealth : Option ServerHealthResponse
  extra : Fields
  addresses : List Address

def DiscoveryClientRobot.robotState (robot : DiscoveryClientRobot) : RobotState :=
  ⟨robot.name, robot.health, robot.serverHealth, robot.extra⟩

structure HealthPollerResult where
  ip : String
  port : Nat
  health : Option HealthResponse
  serverHealth : Option ServerHealthResponse
  healthError : Option HealthErrorResponse
  serverHealthError : Option HealthErrorResponse

def HealthPollerResult.robotName (result : HealthPollerResult) : Option String :=
  (result.serverHealth.map (·.name)).or (result.health.map (·.name))

inductive Action where
  | initializeState (initialRobots : Option (List DiscoveryClientRobot))
      (manualAddresses : Option (List Address))
  | serviceFound (ip : String) (port : Nat) (name : String)
  | healthPolled (result : HealthPollerResult)
  | removeRobot (name : String)

def Action.isUpdate : Action → Bool
  | .initializeState _ _ => false
  | _ => true

structure State where
  robotsByName : ObjectMap RobotState
  hostsByIp : ObjectMap HostState
  manualAddresses : List Address

/-- Lodash `isEqual` on two states: the same robots and hosts under the same
keys, whatever the key order, and the same manual address list. -/
def State.IsEqual (left right : State) : Prop :=
  left.robotsByName.get = right.robotsByName.get ∧ left.hostsByIp.get = right.hostsByIp.get ∧
    left.manualAddresses = right.manualAddresses

end Opentrons.DiscoveryClient
