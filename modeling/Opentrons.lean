import Opentrons.DiscoveryClient.ObjectMap
import Opentrons.DiscoveryClient.Types
import Opentrons.DiscoveryClient.Reducer
import Opentrons.DiscoveryClient.NoChange
import Opentrons.DiscoveryClient.Invariants
import Opentrons.DiscoveryClient.Frame
import Opentrons.DiscoveryClient.Commute
import Opentrons.DiscoveryClient.Observation
import Opentrons.DiscoveryClient.Interleaving
import Opentrons.DiscoveryClient.Selectors
import Opentrons.DiscoveryClient.Client
import Opentrons.ProtocolDesigner.StepList
