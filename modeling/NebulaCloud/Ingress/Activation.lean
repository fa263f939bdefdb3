import Mathlib.Data.List.Sort
import NebulaCloud.Data.System

namespace NebulaCloud.Ingress

/-! Publishing and reconciliation, interleaved at their awaits.  A bind fails when the
port is bound already. -/

open NebulaCloud.Data

inductive Caller
  | reconciler
  | publisher (publish : Nat)
deriving DecidableEq

inductive ActivationStage
  | binding
  | listening
  | failed
deriving DecidableEq

/-- An `activate` call past its check of `#listeners`. -/
structure Activation where
  ingressPort : Int
  caller : Caller
  stage : ActivationStage := .binding
deriving DecidableEq

inductive PublishStage
  | deactivating
  | activating
  | published
  | revoked
deriving DecidableEq

/-- A `publishWorkspaceService` call of a TCP service past its upsert. -/
structure Publish where
  ingressPort : Int
  stage : PublishStage
deriving DecidableEq

/-- What the two loops of `#reconcileOnce` have left. -/
structure Pass where
  closing : List Int
  opening : List Int
  activating : Bool := false
deriving DecidableEq

structure ControlPlane where
  /-- The ports of the active TCP publications. -/
  desiredPorts : List Int
  listeners : List Int := []
  bound : List Int := []
  activations : List Activation := []
  publishes : List Publish := []
  reconciling : Option Pass := none
  /-- The ports of the rejected `activate` calls. -/
  rejected : List Int := []
  /-- The ports of the publications that a rejection revoked. -/
  revoked : List Int := []
deriving DecidableEq

inductive IngressEvent
  /-- `publishWorkspaceService` up to its first await; the previous publication of the
  name may have had a port. -/
  | publish (ingressPort : Int) (previous : Option Int)
  /-- The previous listener of a `publishWorkspaceService` call has closed. -/
  | previousClosed (publish : Nat)
  /-- The bind of an `activate` call is attempted. -/
  | bind (activation : Nat)
  /-- An `activate` call resumes after its bind. -/
  | settle (activation : Nat)
  | reconcile
  /-- The pass resumes. -/
  | advance
  | disconnect (ingressPort : Int)
  | expire (ingressPort : Int)
deriving DecidableEq

namespace ControlPlane

variable (state : ControlPlane)

def deactivate (ingressPort : Int) : ControlPlane :=
  if ingressPort ∈ state.listeners then
    { state with
      listeners := state.listeners.filter (· ≠ ingressPort)
      bound := state.bound.filter (· ≠ ingressPort) }
  else state

def resolve : Caller → ControlPlane
  | .reconciler =>
      { state with reconciling := state.reconciling.map ({ · with activating := false }) }
  | .publisher publish =>
      { state with publishes := state.publishes.modify publish ({ · with stage := .published }) }

/-- The pass ends, the publication is revoked. -/
def reject (ingressPort : Int) : Caller → ControlPlane
  | .reconciler =>
      { state with
        reconciling := none
        rejected := state.rejected ++ [ingressPort] }
  | .publisher publish =>
      { state with
        desiredPorts := state.desiredPorts.filter (· ≠ ingressPort)
        publishes := state.publishes.modify publish ({ · with stage := .revoked })
        rejected := state.rejected ++ [ingressPort]
        revoked := state.revoked ++ [ingressPort] }

/-- `activate` up to its await. -/
def activate (ingressPort : Int) (caller : Caller) : ControlPlane :=
  if ingressPort ∈ state.listeners then state.resolve caller
  else { state with activations := state.activations ++ [{ ingressPort, caller }] }

/-- The pass up to its next await, and the port that it activates there. -/
def continuePass (pass : Pass) : ControlPlane × Option (Int × Caller) :=
  match pass.closing, pass.opening with
  | port :: closing, opening =>
      ({ state.deactivate port with reconciling := some { closing, opening } }, none)
  | [], port :: opening =>
      ({ state with reconciling := some { closing := [], opening, activating := true } },
        some (port, .reconciler))
  | [], [] => ({ state with reconciling := none }, none)

/-- An event up to the `activate` call it may end in. -/
def prepare : IngressEvent → ControlPlane × Option (Int × Caller)
  | .publish ingressPort previous =>
      let publish := state.publishes.length
      let kept := state.desiredPorts.filter fun port => port ≠ ingressPort ∧ some port ≠ previous
      let stored := { state with desiredPorts := kept ++ [ingressPort] }
      match previous.filter (· ≠ ingressPort) with
      | some previous =>
          ({ stored.deactivate previous with
            publishes := state.publishes ++ [{ ingressPort, stage := .deactivating }] }, none)
      | none =>
          ({ stored with publishes := state.publishes ++ [{ ingressPort, stage := .activating }] },
            some (ingressPort, .publisher publish))
  | .previousClosed publish =>
      match state.publishes[publish]? with
      | none => (state, none)
      | some call =>
          ({ state with
            publishes := state.publishes.modify publish ({ · with stage := .activating }) },
            some (call.ingressPort, .publisher publish))
  | .bind activation =>
      match state.activations[activation]? with
      | none => (state, none)
      | some call =>
          if call.ingressPort ∈ state.bound then
            ({ state with
              activations := state.activations.modify activation ({ · with stage := .failed }) },
              none)
          else
            ({ state with
              bound := state.bound ++ [call.ingressPort]
              activations := state.activations.modify activation ({ · with stage := .listening }) },
              none)
  | .settle activation =>
      match state.activations[activation]? with
      | none => (state, none)
      | some call =>
          let rest := { state with activations := state.activations.eraseIdx activation }
          if call.stage = .listening then
            (resolve { rest with
              listeners := state.listeners.filter (· ≠ call.ingressPort) ++ [call.ingressPort] }
              call.caller, none)
          else (rest.reject call.ingressPort call.caller, none)
  | .reconcile =>
      match state.reconciling with
      | some _ => (state, none)
      | none =>
          state.continuePass
            { closing := state.listeners.mergeSort.filter (· ∉ state.desiredPorts)
              opening := state.desiredPorts.mergeSort.filter (· ∉ state.listeners) }
  | .advance =>
      match state.reconciling with
      | none => (state, none)
      | some pass => state.continuePass pass
  | .disconnect ingressPort =>
      (deactivate { state with desiredPorts := state.desiredPorts.filter (· ≠ ingressPort) }
        ingressPort, none)
  | .expire ingressPort =>
      ({ state with desiredPorts := state.desiredPorts.filter (· ≠ ingressPort) }, none)

def step (event : IngressEvent) : ControlPlane :=
  match state.prepare event with
  | (prepared, none) => prepared
  | (prepared, some (ingressPort, caller)) => prepared.activate ingressPort caller

def CanHappen : IngressEvent → Prop
  | .previousClosed publish => ∃ call ∈ state.publishes[publish]?, call.stage = .deactivating
  | .bind activation => ∃ call ∈ state.activations[activation]?, call.stage = .binding
  | .settle activation => ∃ call ∈ state.activations[activation]?, call.stage ≠ .binding
  | .advance => ∃ pass ∈ state.reconciling, pass.activating = false
  | _ => True

instance : DecidablePred state.CanHappen
  | .previousClosed publish =>
      inferInstanceAs (Decidable (∃ call ∈ state.publishes[publish]?, call.stage = .deactivating))
  | .bind activation =>
      inferInstanceAs (Decidable (∃ call ∈ state.activations[activation]?, call.stage = .binding))
  | .settle activation =>
      inferInstanceAs (Decidable (∃ call ∈ state.activations[activation]?, call.stage ≠ .binding))
  | .advance => inferInstanceAs (Decidable (∃ pass ∈ state.reconciling, pass.activating = false))
  | .publish .. | .reconcile | .disconnect _ | .expire _ => .isTrue trivial

end ControlPlane

/-- The process starts without listeners. -/
def ingressSystem : System ControlPlane IngressEvent where
  Initial state := ∃ desiredPorts, state = { desiredPorts }
  Enabled := ControlPlane.CanHappen
  step := ControlPlane.step

instance (state : ControlPlane) (event : IngressEvent) :
    Decidable (ingressSystem.Enabled state event) :=
  inferInstanceAs (Decidable (state.CanHappen event))

namespace ControlPlane

/-- No `activate` call was rejected, and none cost a publication. -/
structure Peaceful (state : ControlPlane) : Prop where
  rejected : state.rejected = []
  revoked : state.revoked = []

/-- An `activate` call that the event makes finds no other call on its way to open
the port. -/
def Alone (state : ControlPlane) (event : IngressEvent) : Prop :=
  ∀ begun ∈ (state.prepare event).2, begun.1 ∉ (state.prepare event).1.listeners →
    ∀ call ∈ (state.prepare event).1.activations, call.ingressPort ≠ begun.1

instance (state : ControlPlane) (event : IngressEvent) : Decidable (state.Alone event) :=
  inferInstanceAs (Decidable (∀ begun ∈ (state.prepare event).2,
    begun.1 ∉ (state.prepare event).1.listeners →
      ∀ call ∈ (state.prepare event).1.activations, call.ingressPort ≠ begun.1))

/-! ## What an activation that is alone keeps -/

/-- A bound port belongs to its listener, or to the one call that is opening it. -/
structure Orderly (state : ControlPlane) : Prop where
  distinct : (state.activations.map (·.ingressPort)).Nodup
  unregistered : ∀ call ∈ state.activations, call.ingressPort ∉ state.listeners
  bound : ∀ port ∈ state.bound, port ∈ state.listeners ∨
    ∃ call ∈ state.activations, call.ingressPort = port ∧ call.stage = .listening
  opening : ∀ call ∈ state.activations, call.stage ≠ .failed
  peaceful : state.Peaceful

variable {state next : ControlPlane} {ingressPort : Int} {caller : Caller} {index : Nat}

/-- Only the publications, the calls of the publishers and the pass differ. -/
structure SamePorts (before after : ControlPlane) : Prop where
  listeners : after.listeners = before.listeners
  bound : after.bound = before.bound
  activations : after.activations = before.activations
  rejected : after.rejected = before.rejected
  revoked : after.revoked = before.revoked

theorem Orderly.of_samePorts (same : SamePorts state next) (orderly : state.Orderly) :
    next.Orderly where
  distinct := by
    rw [same.activations]
    exact orderly.distinct
  unregistered := by
    rw [same.activations, same.listeners]
    exact orderly.unregistered
  bound := by
    rw [same.activations, same.listeners, same.bound]
    exact orderly.bound
  opening := by
    rw [same.activations]
    exact orderly.opening
  peaceful := ⟨same.rejected.trans orderly.peaceful.rejected,
    same.revoked.trans orderly.peaceful.revoked⟩

theorem resolve_samePorts (caller : Caller) : SamePorts state (state.resolve caller) := by
  cases caller <;> exact ⟨rfl, rfl, rfl, rfl, rfl⟩

theorem Orderly.deactivate (orderly : state.Orderly) (ingressPort : Int) :
    Orderly (state.deactivate ingressPort) := by
  unfold ControlPlane.deactivate
  split
  · exact {
      distinct := orderly.distinct
      unregistered := fun call member registered =>
        orderly.unregistered call member (List.mem_of_mem_filter registered)
      bound := by
        intro port held
        obtain ⟨held, different⟩ := List.mem_filter.mp held
        rcases orderly.bound port held with registered | opening
        · exact .inl (List.mem_filter.mpr ⟨registered, different⟩)
        · exact .inr opening
      opening := orderly.opening
      peaceful := ⟨orderly.peaceful.rejected, orderly.peaceful.revoked⟩ }
  · exact orderly

theorem Orderly.activate (orderly : state.Orderly)
    (alone : ingressPort ∉ state.listeners →
      ∀ call ∈ state.activations, call.ingressPort ≠ ingressPort) :
    Orderly (state.activate ingressPort caller) := by
  unfold ControlPlane.activate
  split
  · exact orderly.of_samePorts (resolve_samePorts caller)
  · rename_i closed
    have others := alone closed
    exact {
      distinct := by
        rw [List.map_append, List.map_singleton, List.nodup_append]
        refine ⟨orderly.distinct, List.nodup_singleton _, ?_⟩
        rintro port held other same
        obtain ⟨call, member, rfl⟩ := List.mem_map.mp held
        rw [List.mem_singleton.mp same]
        exact others call member
      unregistered := by
        intro call member
        rcases List.mem_append.mp member with old | new
        · exact orderly.unregistered call old
        · rw [List.mem_singleton.mp new]
          exact closed
      bound := by
        intro port held
        rcases orderly.bound port held with registered | ⟨call, member, opening⟩
        · exact .inl registered
        · exact .inr ⟨call, List.mem_append_left _ member, opening⟩
      opening := by
        intro call member
        rcases List.mem_append.mp member with old | new
        · exact orderly.opening call old
        · rw [List.mem_singleton.mp new]
          simp
      peaceful := ⟨orderly.peaceful.rejected, orderly.peaceful.revoked⟩ }

/-- The bind of a call that is alone succeeds. -/
theorem Orderly.unbound (orderly : state.Orderly) {call : Activation}
    (stored : state.activations[index]? = some call) (binding : call.stage = .binding) :
    call.ingressPort ∉ state.bound := by
  intro held
  have member := List.mem_of_getElem? stored
  rcases orderly.bound _ held with registered | ⟨other, memberToo, same, listening⟩
  · exact orderly.unregistered call member registered
  · have equal : other = call :=
      List.inj_on_of_nodup_map orderly.distinct memberToo member same
    rw [equal, binding] at listening
    cases listening

/-- The calls around the one that the event names. -/
theorem split_call {calls : List Activation} {call : Activation}
    (stored : calls[index]? = some call) : ∃ before after, calls = before ++ call :: after ∧
      (∀ change, calls.modify index change = before ++ change call :: after) ∧
      calls.eraseIdx index = before ++ after := by
  obtain ⟨within, found⟩ := List.getElem?_eq_some_iff.mp stored
  refine ⟨calls.take index, calls.drop (index + 1), ?_, ?_, ?_⟩
  · rw [← found, List.getElem_cons_drop, List.take_append_drop]
  · intro change
    rw [List.modify_eq_take_cons_drop within, found]
  · rw [List.eraseIdx_eq_take_drop_succ]

theorem Orderly.bind (orderly : state.Orderly) {call : Activation}
    (stored : state.activations[index]? = some call) :
    Orderly { state with
      bound := state.bound ++ [call.ingressPort]
      activations := state.activations.modify index ({ · with stage := .listening }) } := by
  obtain ⟨before, after, calls, modified, _⟩ := split_call stored
  rw [modified]
  obtain ⟨distinct, unregistered, bound, opening, peaceful⟩ := orderly
  rw [calls] at distinct unregistered bound opening
  constructor
  · simpa using distinct
  · intro other member
    rcases List.mem_append.mp member with old | new
    · exact unregistered other (List.mem_append_left _ old)
    · rcases List.mem_cons.mp new with rfl | old
      · exact unregistered call (List.mem_append_right _ List.mem_cons_self)
      · exact unregistered other (List.mem_append_right _ (List.mem_cons_of_mem _ old))
  · intro port held
    rcases List.mem_append.mp held with old | new
    · rcases bound port old with registered | ⟨other, member, same, listening⟩
      · exact .inl registered
      · right
        rcases List.mem_append.mp member with first | later
        · exact ⟨other, List.mem_append_left _ first, same, listening⟩
        · rcases List.mem_cons.mp later with rfl | later
          · exact ⟨_, List.mem_append_right _ List.mem_cons_self, same, rfl⟩
          · exact ⟨other, List.mem_append_right _ (List.mem_cons_of_mem _ later), same, listening⟩
    · exact .inr ⟨_, List.mem_append_right _ List.mem_cons_self, (List.mem_singleton.mp new).symm, rfl⟩
  · intro other member
    rcases List.mem_append.mp member with old | new
    · exact opening other (List.mem_append_left _ old)
    · rcases List.mem_cons.mp new with rfl | old
      · simp
      · exact opening other (List.mem_append_right _ (List.mem_cons_of_mem _ old))
  · exact ⟨peaceful.rejected, peaceful.revoked⟩

theorem Orderly.register (orderly : state.Orderly) {call : Activation}
    (stored : state.activations[index]? = some call) :
    Orderly { state with
      activations := state.activations.eraseIdx index
      listeners := state.listeners.filter (· ≠ call.ingressPort) ++ [call.ingressPort] } := by
  obtain ⟨before, after, calls, _, erased⟩ := split_call stored
  rw [erased]
  obtain ⟨distinct, unregistered, bound, opening, peaceful⟩ := orderly
  rw [calls] at distinct unregistered bound opening
  rw [List.map_append, List.map_cons, List.nodup_middle, List.nodup_cons, ← List.map_append] at distinct
  obtain ⟨own, distinct⟩ := distinct
  have rest : ∀ other ∈ before ++ after, other ∈ before ++ call :: after := by
    intro other member
    rcases List.mem_append.mp member with first | later
    · exact List.mem_append_left _ first
    · exact List.mem_append_right _ (List.mem_cons_of_mem _ later)
  constructor
  · exact distinct
  · intro other member registered
    rcases List.mem_append.mp registered with old | new
    · exact unregistered other (rest other member) (List.mem_of_mem_filter old)
    · exact own (List.mem_singleton.mp new ▸ List.mem_map_of_mem member)
  · intro port held
    by_cases same : port = call.ingressPort
    · exact .inl (List.mem_append_right _ (List.mem_singleton.mpr same))
    · rcases bound port held with registered | ⟨other, member, equal, listening⟩
      · exact .inl (List.mem_append_left _ (List.mem_filter.mpr ⟨registered, decide_eq_true same⟩))
      · have different : other ≠ call := by
          rintro rfl
          exact same equal.symm
        have member : other ∈ before ++ after := by
          simpa [different] using member
        exact .inr ⟨other, member, equal, listening⟩
  · exact fun other member => opening other (rest other member)
  · exact ⟨peaceful.rejected, peaceful.revoked⟩

theorem Orderly.continuePass (orderly : state.Orderly) (pass : Pass) :
    Orderly (state.continuePass pass).1 := by
  obtain ⟨closing, opening, _⟩ := pass
  cases closing with
  | cons port closing =>
      exact (orderly.deactivate port).of_samePorts (by constructor <;> rfl)
  | nil => cases opening <;> exact orderly.of_samePorts (by constructor <;> rfl)

theorem Orderly.prepare (orderly : state.Orderly) {event : IngressEvent}
    (enabled : state.CanHappen event) : Orderly (state.prepare event).1 := by
  cases event with
  | publish ingressPort previous =>
      simp only [ControlPlane.prepare]
      split
      · refine Orderly.of_samePorts (by constructor <;> rfl) (Orderly.deactivate ?_ _)
        exact orderly.of_samePorts (by constructor <;> rfl)
      · exact orderly.of_samePorts (by constructor <;> rfl)
  | previousClosed publish =>
      simp only [ControlPlane.prepare]
      split
      · exact orderly
      · exact orderly.of_samePorts (by constructor <;> rfl)
  | bind activation =>
      obtain ⟨call, stored, binding⟩ := enabled
      simp only [ControlPlane.prepare, Option.mem_def.mp stored, if_neg (orderly.unbound stored binding)]
      exact orderly.bind stored
  | settle activation =>
      obtain ⟨call, stored, settled⟩ := enabled
      have listening : call.stage = .listening := by
        have opened := orderly.opening call (List.mem_of_getElem? stored)
        cases stage : call.stage with
        | binding => exact absurd stage settled
        | listening => rfl
        | failed => exact absurd stage opened
      simp only [ControlPlane.prepare, Option.mem_def.mp stored, if_pos listening]
      exact (orderly.register stored).of_samePorts (resolve_samePorts call.caller)
  | reconcile =>
      simp only [ControlPlane.prepare]
      split
      · exact orderly
      · exact orderly.continuePass _
  | advance =>
      simp only [ControlPlane.prepare]
      split
      · exact orderly
      · exact orderly.continuePass _
  | disconnect ingressPort =>
      exact (orderly.of_samePorts (by constructor <;> rfl)).deactivate ingressPort
  | expire ingressPort => exact orderly.of_samePorts (by constructor <;> rfl)

theorem Orderly.step (orderly : state.Orderly) {event : IngressEvent}
    (enabled : state.CanHappen event) (alone : state.Alone event) : Orderly (state.step event) := by
  have prepared := orderly.prepare enabled
  unfold ControlPlane.step
  unfold Alone at alone
  generalize state.prepare event = outcome at prepared alone
  obtain ⟨next, begun⟩ := outcome
  cases begun with
  | none => exact prepared
  | some begun => exact prepared.activate (alone begun rfl)

end ControlPlane

/-- While no activation overlaps another one of its port, none is rejected and no
publication is lost to one. -/
theorem activations_at_peace {state : ControlPlane} {events : List IngressEvent}
    (initial : ingressSystem.Initial state) (runs : ingressSystem.Runs state events)
    (alone : ingressSystem.Along ControlPlane.Alone state events) :
    ingressSystem.Along (fun state event => (state.step event).Peaceful) state events := by
  obtain ⟨desiredPorts, rfl⟩ := initial
  have start : ControlPlane.Orderly { desiredPorts } :=
    ⟨List.nodup_nil, by simp, by simp, by simp, ⟨rfl, rfl⟩⟩
  refine (System.Along.invariant (System.Along.and runs alone) start ?_).1
  intro state event both orderly
  have next := orderly.step both.1 both.2
  exact ⟨next.peaceful, next⟩

/-- A publication moves to another port, between two passes. -/
theorem activations_at_peace_moved :
    ingressSystem.Along (fun state event => (state.step event).Peaceful) { desiredPorts := [] }
      [.publish 20000 none, .bind 0, .settle 0, .publish 20001 (some 20000), .previousClosed 1,
        .bind 0, .settle 0, .reconcile] :=
  activations_at_peace ⟨[], rfl⟩ (by decide +kernel) (by decide +kernel)

/-- A pass reopens a port while its publication is published again: the second bind
fails and the publication is revoked. -/
theorem reconciliation_costs_publication :
    let events : List IngressEvent := [.reconcile, .publish 20000 none, .bind 0, .bind 1, .settle 1]
    ingressSystem.Initial { desiredPorts := [20000] } ∧
      ingressSystem.Runs { desiredPorts := [20000] } events ∧
      (ingressSystem.run { desiredPorts := [20000] } events).revoked = [20000] ∧
      ¬ ingressSystem.Along (fun state event => (state.step event).Peaceful)
        { desiredPorts := [20000] } events := by
  refine ⟨⟨[20000], rfl⟩, by decide +kernel, by decide +kernel, ?_⟩
  rintro ⟨_, _, _, _, peaceful, _⟩
  exact absurd peaceful.revoked (by decide +kernel)

end NebulaCloud.Ingress
