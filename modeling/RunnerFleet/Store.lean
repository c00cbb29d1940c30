import RunnerFleet.Agent
import RunnerFleet.Table

/-!
# The coordinator's store

Agents, the runners they reported, which agent each runner is attributed to, and the cloud ids
handed out for runners. Runner records enter through agents' reports only (`Store.report`); a cloud
id is registered at placement, so it may name a runner that no agent has reported yet.
-/

namespace RunnerFleet

/-- What a look-up or an update of the store can fail with. -/
inductive StoreError where
  | agentNotFound (id : AgentId)
  | runnerNotFound (id : RunnerId)
  | cloudIdNotFound (id : CloudId)
  | agentOffline (id : AgentId)
  deriving DecidableEq, Repr

namespace StoreError

/-- The wording of a store error. -/
def message : StoreError → String
  | agentNotFound id => "agent not found: " ++ id
  | runnerNotFound id => "runner not found: " ++ id
  | cloudIdNotFound id => "external id not found: " ++ id
  | agentOffline id => "agent is offline: " ++ id

/-- The thing asked for is not in the store. -/
def isNotFound : StoreError → Bool
  | agentOffline _ => false
  | _ => true

end StoreError

/-- The coordinator's view of the fleet. -/
structure Store where
  agents : Table Agent
  runners : Table Runner
  /-- The agent that last reported each runner. -/
  owners : Table AgentId
  cloudIds : Table RunnerId
  deriving DecidableEq, Repr, Inhabited

namespace Store

/-- The store of a coordinator that has just started. -/
def empty : Store := ⟨.empty, .empty, .empty, .empty⟩

/-! ## Agents -/

/-- Stores an agent, replacing an earlier record with its id. -/
def registerAgent (s : Store) (agent : Agent) : Store :=
  { s with agents := s.agents.insert agent.id agent }

def getAgent (s : Store) (id : AgentId) : Except StoreError Agent :=
  match s.agents.get? id with
  | some agent => .ok agent
  | none => .error (.agentNotFound id)

/-- All agents, in the order of their ids. -/
def listAgents (s : Store) : List Agent := s.agents.values

/-- Marks an agent with a status. -/
def setAgentStatus (s : Store) (id : AgentId) (status : AgentStatus) :
    Store × Except StoreError Unit :=
  match s.agents.get? id with
  | some agent => ({ s with agents := s.agents.insert id { agent with status } }, .ok ())
  | none => (s, .error (.agentNotFound id))

/-- The agents whose status is online. -/
def onlineAgents (s : Store) : List Agent := s.listAgents.filter (·.status == .online)

/-! ## Reports -/

/-- Removes a runner, its attribution and every cloud id that names it. -/
def dropRunner (s : Store) (id : RunnerId) : Store :=
  { s with
    runners := s.runners.erase id
    owners := s.owners.erase id
    cloudIds := s.cloudIds.filter fun _ rid => rid != id }

/-- Records one reported runner and attributes it to `agent`. -/
def adopt (s : Store) (agent : AgentId) (runner : Runner) : Store :=
  { s with
    owners := s.owners.insert runner.id agent
    runners := s.runners.insert runner.id runner }

/-- The runners attributed to `agent` that `reported` does not name. -/
def staleRunners (s : Store) (agent : AgentId) (reported : List Runner) : List RunnerId :=
  (s.owners.filter fun rid aid => aid == agent && !(reported.any (·.id == rid))).keys

/-- Replaces the runners attributed to `agent` by the reported ones: those it no longer reports are
dropped, those it reports are stored as they come, whoever reported them before. -/
def report (s : Store) (agent : AgentId) (reported : List Runner) :
    Store × Except StoreError Unit :=
  if s.agents.contains agent then
    let kept := (s.staleRunners agent reported).foldl dropRunner s
    (reported.foldl (adopt · agent) kept, .ok ())
  else (s, .error (.agentNotFound agent))

/-! ## Runners -/

def getRunner (s : Store) (id : RunnerId) : Except StoreError Runner :=
  match s.runners.get? id with
  | some runner => .ok runner
  | none => .error (.runnerNotFound id)

/-- The runner behind a cloud id: `cloudIdNotFound` if the id is unknown, `runnerNotFound` if it is
registered and its runner is not reported. -/
def getByCloudId (s : Store) (id : CloudId) : Except StoreError Runner :=
  match s.cloudIds.get? id with
  | some rid => s.getRunner rid
  | none => .error (.cloudIdNotFound id)

def agentOfRunner (s : Store) (id : RunnerId) : Except StoreError AgentId :=
  match s.owners.get? id with
  | some agent => .ok agent
  | none => .error (.runnerNotFound id)

/-- All runners, in the order of their ids. -/
def listRunners (s : Store) : List Runner := s.runners.values

/-- The runners attributed to `agent`, in the order of their ids. -/
def runnersOf (s : Store) (agent : AgentId) : List Runner :=
  (s.owners.filter fun _ aid => aid == agent).keys.filterMap s.runners.get?

def registerCloudId (s : Store) (id : CloudId) (runner : RunnerId) : Store :=
  { s with cloudIds := s.cloudIds.insert id runner }

/-- Forgets a cloud id and nothing else; the answer says whether it was known. -/
def forgetCloudId (s : Store) (id : CloudId) : Store × Bool :=
  ({ s with cloudIds := s.cloudIds.erase id }, s.cloudIds.contains id)

/-- Removes a runner with its attribution and its cloud ids. The attribution and the cloud ids go
even when no record of the runner is held, in which case the answer is an error. -/
def deleteRunner (s : Store) (id : RunnerId) : Store × Except StoreError Unit :=
  (s.dropRunner id, if s.runners.contains id then .ok () else .error (.runnerNotFound id))

/-! ## Capacity -/

/-- The number of the agent's runners that occupy a slot. -/
def activeCount (s : Store) (agent : AgentId) : Nat :=
  (s.runnersOf agent).countP (·.state.occupiesSlot)

/-- Whether the agent is online and holds fewer active runners than it may. -/
def hasCapacity (s : Store) (id : AgentId) : Except StoreError Bool :=
  match s.agents.get? id with
  | none => .error (.agentNotFound id)
  | some agent =>
    if agent.status = .online then .ok (s.activeCount id < agent.capacity.maxRunners.toNat)
    else .ok false

/-- The free slots of an online agent: its limit less its active runners (a 32-bit count), and zero
when the agent holds more than its limit. -/
def availableSlots (s : Store) (id : AgentId) : Except StoreError UInt32 :=
  match s.agents.get? id with
  | none => .error (.agentNotFound id)
  | some agent =>
    if agent.status = .online then
      let active := UInt32.ofNat (s.activeCount id)
      .ok (if active ≤ agent.capacity.maxRunners then agent.capacity.maxRunners - active else 0)
    else .error (.agentOffline id)

end Store

end RunnerFleet
