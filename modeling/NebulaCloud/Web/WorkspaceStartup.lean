import NebulaCloud.Data.System
import NebulaCloud.Database.Schema

namespace NebulaCloud.Web

open NebulaCloud.Data NebulaCloud.Database

/-! # Starting a workspace

The browser resolves the personal workspace, has it provisioned if it is not ready, polls
until it is, and then polls its runtime.  A script holds what the calls answer. -/

inductive StartupStage
  | resolving | provisioning | starting | ready
deriving DecidableEq, Repr

structure Workspace where
  id : String
  state : WorkspaceState
deriving DecidableEq, Repr

/-- What a call may reject with: an `AbortError`, an error of the startup itself, or
anything else, with its message if it is an `Error`. -/
inductive StartupFailure
  | abort
  | startup (stage : StartupStage) (message : String) (retryable : Bool)
  | other (message : Option String)
deriving DecidableEq, Repr

/-- Where the signal is looked at. -/
inductive AbortCheck
  | entry
  | resolved
  | provisioning (attempt : Nat)
  | starting (attempt : Nat)
deriving DecidableEq, Repr

structure StartupScript where
  aborted : AbortCheck → Bool
  resolveWorkspace : Nat → Except StartupFailure Workspace
  ensureRunning : Except StartupFailure Workspace
  runtimeReady : Nat → Except StartupFailure Bool
  provisioningWait : Nat → Except StartupFailure Unit
  runtimeWait : Nat → Except StartupFailure Unit

structure StartupOptions where
  provisioningPollMs : Nat := 1000
  provisioningAttempts : Nat := 90
  runtimePollMs : Nat := 500
  runtimeAttempts : Nat := 30
deriving DecidableEq, Repr

inductive StartupEvent
  | progress (stage : StartupStage) (workspaceId : Option String)
  | resolveWorkspace (answer : Except StartupFailure Workspace)
  | ensureRunning (answer : Except StartupFailure Workspace)
  | runtimeReady (workspaceId : String) (answer : Except StartupFailure Bool)
  | wait (milliseconds : Nat)

/-- What a part of the startup did, and how it ended. -/
structure Startup (α : Type) where
  events : List StartupEvent
  outcome : Except StartupFailure α

def Startup.after {α : Type} (events : List StartupEvent) (next : Startup α) : Startup α :=
  { next with events := events ++ next.events }

def startupError (stage : StartupStage) (failure : StartupFailure) (fallback : String) : StartupFailure :=
  match failure with
  | .abort => .abort
  | .startup stage message retryable => .startup stage message retryable
  | .other message => .startup stage (message.getD fallback) true

/-- The loop that polls a workspace until it is ready, with the attempts that are left. -/
def awaitWorkspace (options : StartupOptions) (script : StartupScript) (left attempt : Nat) (workspace : Workspace) :
    Startup Workspace :=
  if workspace.state = .ready then ⟨[], .ok workspace⟩
  else if script.aborted (.provisioning attempt) then ⟨[], .error .abort⟩
  else if workspace.state = .failed then
    ⟨[], .error (.startup .provisioning "Provisioning failed. Retry to schedule a fresh attempt." true)⟩
  else
    match left with
    | 0 =>
        ⟨[], .error (.startup .provisioning
          "Provisioning is taking longer than expected. Retry to check again." true)⟩
    | left + 1 =>
        match script.provisioningWait attempt with
        | .error failure => ⟨[.wait options.provisioningPollMs], .error failure⟩
        | .ok () =>
            let answer := script.resolveWorkspace (attempt + 1)
            .after [.wait options.provisioningPollMs, .resolveWorkspace answer]
              (match answer with
              | .error failure =>
                  ⟨[], .error (startupError .provisioning failure
                    "Workspace provisioning status could not be refreshed.")⟩
              | .ok workspace => awaitWorkspace options script left (attempt + 1) workspace)

/-- The loop that polls the runtime of a ready workspace. -/
def awaitRuntime (options : StartupOptions) (script : StartupScript) (workspaceId : String) :
    Nat → Nat → Startup String
  | 0, _ =>
      ⟨[], .error (.startup .starting
        "Nebula was provisioned, but its runtime did not become ready. Retry to reconnect." true)⟩
  | left + 1, attempt =>
      if script.aborted (.starting attempt) then ⟨[], .error .abort⟩
      else
        let answer := script.runtimeReady attempt
        .after [.runtimeReady workspaceId answer]
          (match answer with
          | .ok true => ⟨[.progress .ready (some workspaceId)], .ok workspaceId⟩
          | .error .abort => ⟨[], .error .abort⟩
          | _ =>
              if left = 0 then awaitRuntime options script workspaceId left (attempt + 1)
              else
                .after [.wait options.runtimePollMs]
                  (match script.runtimeWait attempt with
                  | .error failure => ⟨[], .error failure⟩
                  | .ok () => awaitRuntime options script workspaceId left (attempt + 1)))

/-- What follows once the workspace is ready. -/
def startRuntime (options : StartupOptions) (script : StartupScript) (workspace : Workspace) : Startup String :=
  .after [.progress .starting (some workspace.id)]
    (awaitRuntime options script workspace.id options.runtimeAttempts 0)

/-- A workspace that is not ready is provisioned. -/
def provisionWorkspace (options : StartupOptions) (script : StartupScript) (workspace : Workspace) : Startup Workspace :=
  if workspace.state = .ready then ⟨[], .ok workspace⟩
  else
    .after [.progress .provisioning (some workspace.id), .ensureRunning script.ensureRunning]
      (match script.ensureRunning with
      | .error failure =>
          ⟨[], .error (startupError .provisioning failure "Your personal workspace could not be provisioned.")⟩
      | .ok workspace => awaitWorkspace options script options.provisioningAttempts 0 workspace)

def startPersonalWorkspace (options : StartupOptions) (script : StartupScript) : Startup String :=
  if script.aborted .entry then ⟨[], .error .abort⟩
  else
    let answer := script.resolveWorkspace 0
    .after [.progress .resolving none, .resolveWorkspace answer]
      (match answer with
      | .error failure =>
          ⟨[], .error (startupError .resolving failure "Your personal workspace could not be resolved.")⟩
      | .ok workspace =>
          if script.aborted .resolved then ⟨[], .error .abort⟩
          else
            let provisioned := provisionWorkspace options script workspace
            .after provisioned.events
              (match provisioned.outcome with
              | .error failure => ⟨[], .error failure⟩
              | .ok workspace => startRuntime options script workspace))

/-! ## What a startup may do -/

def isResolve : StartupEvent → Bool
  | .resolveWorkspace _ => true
  | _ => false

def isEnsure : StartupEvent → Bool
  | .ensureRunning _ => true
  | _ => false

def isRuntimeCheck : StartupEvent → Bool
  | .runtimeReady _ _ => true
  | _ => false

def isWait : StartupEvent → Bool
  | .wait _ => true
  | _ => false

def reportedStage : StartupEvent → Option StartupStage
  | .progress stage _ => some stage
  | _ => none

/-- The last workspace that has been answered. -/
def latestWorkspace : System (Option Workspace) StartupEvent where
  Initial latest := latest = none
  Enabled _ _ := True
  step latest
    | .resolveWorkspace (.ok workspace) => some workspace
    | .ensureRunning (.ok workspace) => some workspace
    | _ => latest

/-- The runtime is checked of a workspace that was ready when it was last seen. -/
def ChecksReady (latest : Option Workspace) (event : StartupEvent) : Prop :=
  ∀ workspaceId answer, event = .runtimeReady workspaceId answer →
    latest = some ⟨workspaceId, .ready⟩

def stagesOf (provisioning : Bool) : List StartupStage :=
  [.resolving] ++ (if provisioning then [.provisioning] else []) ++ [.starting, .ready]

/-- A startup that is bounded and honest. -/
structure IsBounded (options : StartupOptions) (script : StartupScript) (startup : Startup String) : Prop where
  resolves : startup.events.countP isResolve ≤ 1 + options.provisioningAttempts
  ensures : startup.events.countP isEnsure ≤ 1
  provisioned : ∀ event ∈ startup.events, isEnsure event = true →
    ∃ workspace, script.resolveWorkspace 0 = .ok workspace ∧ workspace.state ≠ .ready
  checks : startup.events.countP isRuntimeCheck ≤ options.runtimeAttempts
  waits : startup.events.countP isWait ≤ options.provisioningAttempts + (options.runtimeAttempts - 1)
  checksReady : latestWorkspace.Along ChecksReady none startup.events
  returns : ∀ workspaceId, startup.outcome = .ok workspaceId ↔ .runtimeReady workspaceId (.ok true) ∈ startup.events
  progress : ∃ provisioning, startup.events.filterMap reportedStage <+: stagesOf provisioning

variable {α : Type} {options : StartupOptions} {script : StartupScript} {events : List StartupEvent}
  {workspace : Workspace} {workspaceId : String} {left attempt : Nat}

@[simp] theorem after_events (events : List StartupEvent) (next : Startup α) :
    (next.after events).events = events ++ next.events := rfl

@[simp] theorem after_outcome (events : List StartupEvent) (next : Startup α) :
    (next.after events).outcome = next.outcome := rfl

/-! ## Polling the workspace -/

/-- A part of the startup that waits and resolves at most `left` times, and ends well with
the ready workspace that it has seen last. -/
structure PollsWorkspace (left : Nat) (workspace : Workspace) (polled : Startup Workspace) : Prop where
  only : ∀ event ∈ polled.events, isResolve event = true ∨ isWait event = true
  resolves : polled.events.countP isResolve ≤ left
  waits : polled.events.countP isWait ≤ left
  found : ∀ ready, polled.outcome = .ok ready →
    ready.state = .ready ∧ latestWorkspace.run (some workspace) polled.events = some ready

theorem countP_none {kind : StartupEvent → Bool} (none : ∀ event ∈ events, kind event = false) : events.countP kind = 0 :=
  List.countP_eq_zero.mpr fun event member => by
    rw [none event member]
    exact Bool.false_ne_true

theorem pollsWorkspace_failed (failure : StartupFailure) : PollsWorkspace left workspace ⟨[], .error failure⟩ :=
  ⟨by simp, Nat.zero_le _, Nat.zero_le _, fun _ ended => by cases ended⟩

theorem awaitWorkspace_polls (options : StartupOptions) (script : StartupScript) (left attempt : Nat) (workspace : Workspace) :
    PollsWorkspace left workspace (awaitWorkspace options script left attempt workspace) := by
  fun_induction awaitWorkspace options script left attempt workspace with
  | case1 left attempt workspace ready =>
      refine ⟨by simp, Nat.zero_le _, Nat.zero_le _, ?_⟩
      rintro found ⟨⟩
      exact ⟨ready, rfl⟩
  | case2 => exact pollsWorkspace_failed _
  | case3 => exact pollsWorkspace_failed _
  | case4 => exact pollsWorkspace_failed _
  | case5 => exact ⟨by simp [isWait], Nat.zero_le _, Nat.succ_le_succ (Nat.zero_le _), fun _ ended => by cases ended⟩
  | case6 attempt workspace _ _ _ left _ answer ih =>
      cases answered : answer with
      | error failure =>
          refine ⟨by simp [isResolve, isWait], ?_, ?_, fun _ ended => by cases ended⟩
          · exact Nat.succ_le_succ (Nat.zero_le _)
          · exact Nat.succ_le_succ (Nat.zero_le _)
      | ok next =>
          obtain ⟨only, resolves, waits, found⟩ := ih next
          refine ⟨?_, ?_, ?_, found⟩
          · intro event member
            rcases List.mem_append.mp member with now | later
            · simp only [List.mem_cons, List.not_mem_nil, or_false] at now
              rcases now with rfl | rfl
              · exact .inr rfl
              · exact .inl rfl
            · exact only event later
          · simpa [List.countP_cons, isResolve] using resolves
          · simpa [List.countP_cons, isWait] using waits

/-- What provisioning does before the runtime is started. -/
structure Provisions (options : StartupOptions) (workspace : Workspace) (provisioned : Startup Workspace) : Prop where
  unchecked : ∀ event ∈ provisioned.events, isRuntimeCheck event = false
  resolves : provisioned.events.countP isResolve ≤ options.provisioningAttempts
  ensures : provisioned.events.countP isEnsure ≤ 1
  needed : ∀ event ∈ provisioned.events, isEnsure event = true → workspace.state ≠ .ready
  waits : provisioned.events.countP isWait ≤ options.provisioningAttempts
  progress : provisioned.events.filterMap reportedStage = [] ∨
    provisioned.events.filterMap reportedStage = [.provisioning]
  found : ∀ ready, provisioned.outcome = .ok ready →
    ready.state = .ready ∧ latestWorkspace.run (some workspace) provisioned.events = some ready

theorem polling_silent {event : StartupEvent} (polling : isResolve event = true ∨ isWait event = true) :
    isRuntimeCheck event = false ∧ isEnsure event = false ∧ reportedStage event = none := by
  cases event <;> simp_all [isResolve, isWait, isRuntimeCheck, isEnsure, reportedStage]

theorem provisionWorkspace_provisions (options : StartupOptions) (script : StartupScript) (workspace : Workspace) :
    Provisions options workspace (provisionWorkspace options script workspace) := by
  rw [provisionWorkspace]
  split
  · rename_i ready
    refine ⟨by simp, Nat.zero_le _, Nat.zero_le _, by simp, Nat.zero_le _, .inl rfl, ?_⟩
    rintro found ⟨⟩
    exact ⟨ready, rfl⟩
  rename_i notReady
  cases answered : script.ensureRunning with
  | error failure =>
      refine ⟨by simp [isRuntimeCheck], Nat.zero_le _, Nat.le_refl 1, ?_, Nat.zero_le _, .inr rfl,
        fun _ ended => by cases ended⟩
      exact fun _ _ _ => notReady
  | ok next =>
      obtain ⟨only, resolves, waits, found⟩ :=
        awaitWorkspace_polls options script options.provisioningAttempts 0 next
      refine ⟨?_, ?_, ?_, fun _ _ _ => notReady, ?_, .inr ?_, found⟩
      · intro event member
        rcases List.mem_append.mp member with now | later
        · simp only [List.mem_cons, List.not_mem_nil, or_false] at now
          rcases now with rfl | rfl
          · rfl
          · rfl
        · exact (polling_silent (only event later)).1
      · simpa [List.countP_cons, isResolve] using resolves
      · have none : (awaitWorkspace options script options.provisioningAttempts 0 next).events.countP isEnsure = 0 :=
          countP_none fun event member => (polling_silent (only event member)).2.1
        simp [List.countP_cons, isEnsure, none]
      · simpa [List.countP_cons, isWait] using waits
      · have silent := List.filterMap_eq_nil_iff.mpr fun event member => (polling_silent (only event member)).2.2
        rw [after_events, List.filterMap_append, silent]
        rfl

/-! ## Polling the runtime -/

/-- A part of the startup that checks the runtime of one workspace and waits in between,
and returns its id exactly if a check says yes. -/
structure PollsRuntime (checks waits : Nat) (workspaceId : String) (polled : Startup String) : Prop where
  only : ∀ event ∈ polled.events, (∃ answer, event = .runtimeReady workspaceId answer) ∨ isWait event = true ∨
    event = .progress .ready (some workspaceId)
  checks : polled.events.countP isRuntimeCheck ≤ checks
  waits : polled.events.countP isWait ≤ waits
  returns : ∀ found, polled.outcome = .ok found ↔ .runtimeReady found (.ok true) ∈ polled.events
  progress : polled.events.filterMap reportedStage <+: [.ready]

variable {checks waits : Nat} {next : Startup String} {answer : Except StartupFailure Bool}

theorem pollsRuntime_failed (failure : StartupFailure) : PollsRuntime checks waits workspaceId ⟨[], .error failure⟩ :=
  ⟨by simp, Nat.zero_le _, Nat.zero_le _, by simp, List.nil_prefix⟩

theorem PollsRuntime.wait (polls : PollsRuntime checks waits workspaceId next) (milliseconds : Nat) :
    PollsRuntime checks (waits + 1) workspaceId (next.after [.wait milliseconds]) := by
  refine ⟨?_, ?_, ?_, ?_, polls.progress⟩
  · intro event member
    rcases List.mem_cons.mp member with rfl | later
    · exact .inr (.inl rfl)
    · exact polls.only event later
  · simpa [List.countP_cons, isRuntimeCheck] using polls.checks
  · simpa [List.countP_cons, isWait] using polls.waits
  · simpa using polls.returns

/-- A check that does not say yes. -/
theorem PollsRuntime.check (polls : PollsRuntime checks waits workspaceId next) (no : answer ≠ .ok true) :
    PollsRuntime (checks + 1) waits workspaceId (next.after [.runtimeReady workspaceId answer]) := by
  refine ⟨?_, ?_, ?_, fun found => ?_, polls.progress⟩
  · intro event member
    rcases List.mem_cons.mp member with rfl | later
    · exact .inl ⟨answer, rfl⟩
    · exact polls.only event later
  · simpa [List.countP_cons, isRuntimeCheck] using polls.checks
  · simpa [List.countP_cons, isWait] using polls.waits
  · rw [after_outcome, polls.returns, after_events, List.singleton_append, List.mem_cons]
    refine (or_iff_right ?_).symm
    rintro ⟨⟩
    exact no rfl

theorem awaitRuntime_polls (options : StartupOptions) (script : StartupScript) (workspaceId : String)
    (left attempt : Nat) :
    PollsRuntime left (left - 1) workspaceId (awaitRuntime options script workspaceId left attempt) := by
  fun_induction awaitRuntime options script workspaceId left attempt with
  | case1 => exact pollsRuntime_failed _
  | case2 => exact pollsRuntime_failed _
  | case3 left attempt _ answer ih =>
      have next : PollsRuntime left left workspaceId
          (if left = 0 then awaitRuntime options script workspaceId left (attempt + 1)
          else
            Startup.after [.wait options.runtimePollMs]
              (match script.runtimeWait attempt with
              | .error failure => ⟨[], .error failure⟩
              | .ok () => awaitRuntime options script workspaceId left (attempt + 1))) := by
        split
        · exact { ih with waits := Nat.le_trans ih.waits (Nat.sub_le left 1) }
        · rename_i more
          obtain ⟨fewer, rfl⟩ := Nat.exists_eq_succ_of_ne_zero more
          split
          · exact (pollsRuntime_failed _).wait _
          · exact ih.wait _
      cases answered : answer with
      | error failure =>
          cases failure with
          | abort => exact (pollsRuntime_failed .abort).check (by simp)
          | startup => exact next.check (by simp)
          | other => exact next.check (by simp)
      | ok yes =>
          cases yes with
          | false => exact next.check (by simp)
          | true =>
              refine ⟨?_, Nat.succ_le_succ (Nat.zero_le left), Nat.zero_le _, ?_, List.prefix_refl _⟩
              · simp
              · intro found
                simp [eq_comm]

/-! ## The startup -/

/-- Where the latest workspace is known and no other one comes, its checks are of it. -/
theorem checksReady_polls {latest : Option Workspace} (polls : PollsRuntime checks waits workspaceId next)
    (ready : latest = some ⟨workspaceId, .ready⟩) : latestWorkspace.Along ChecksReady latest next.events := by
  have only := polls.only
  generalize next.events = events at only
  induction events with
  | nil => trivial
  | cons event rest ih =>
      have later := ih fun other member => only other (List.mem_cons_of_mem event member)
      rcases only event List.mem_cons_self with ⟨answer, rfl⟩ | waiting | rfl
      · refine ⟨?_, later⟩
        rintro _ _ ⟨⟩
        exact ready
      · cases event with
        | wait milliseconds => exact ⟨by rintro _ _ ⟨⟩, later⟩
        | _ => cases waiting
      · exact ⟨by rintro _ _ ⟨⟩, later⟩

theorem checksReady_unchecked {latest : Option Workspace} (unchecked : ∀ event ∈ events, isRuntimeCheck event = false) :
    latestWorkspace.Along ChecksReady latest events := by
  induction events generalizing latest with
  | nil => trivial
  | cons event rest ih =>
      refine ⟨?_, ih fun other member => unchecked other (List.mem_cons_of_mem event member)⟩
      rintro workspaceId answer rfl
      cases unchecked _ List.mem_cons_self

/-- What comes once provisioning is over. -/
structure Finishes (options : StartupOptions) (latest : Option Workspace) (finish : Startup String) : Prop where
  quiet : ∀ event ∈ finish.events, isResolve event = false ∧ isEnsure event = false
  checks : finish.events.countP isRuntimeCheck ≤ options.runtimeAttempts
  waits : finish.events.countP isWait ≤ options.runtimeAttempts - 1
  checksReady : latestWorkspace.Along ChecksReady latest finish.events
  returns : ∀ found, finish.outcome = .ok found ↔ .runtimeReady found (.ok true) ∈ finish.events
  progress : finish.events.filterMap reportedStage <+: [.starting, .ready]

theorem finishes_failed {latest : Option Workspace} (failure : StartupFailure) :
    Finishes options latest ⟨[], .error failure⟩ :=
  ⟨by simp, Nat.zero_le _, Nat.zero_le _, trivial, by simp, List.nil_prefix⟩

theorem startRuntime_finishes {latest : Option Workspace} (ready : workspace.state = .ready)
    (seen : latest = some workspace) : Finishes options latest (startRuntime options script workspace) := by
  have polls := awaitRuntime_polls options script workspace.id options.runtimeAttempts 0
  refine ⟨?_, ?_, ?_, ⟨by rintro _ _ ⟨⟩, ?_⟩, fun found => ?_, ?_⟩
  · intro event member
    rcases List.mem_cons.mp member with rfl | later
    · exact ⟨rfl, rfl⟩
    rcases polls.only event later with ⟨answer, rfl⟩ | waiting | rfl
    · exact ⟨rfl, rfl⟩
    · cases event with
      | wait milliseconds => exact ⟨rfl, rfl⟩
      | _ => cases waiting
    · exact ⟨rfl, rfl⟩
  · simpa [startRuntime, List.countP_cons, isRuntimeCheck] using polls.checks
  · simpa [startRuntime, List.countP_cons, isWait] using polls.waits
  · refine checksReady_polls polls ?_
    rw [seen, ← ready]
    rfl
  · simpa [startRuntime] using polls.returns found
  · exact List.prefix_cons_inj _ |>.mpr polls.progress

/-- Resolving, provisioning and finishing make a startup. -/
theorem isBounded_parts {provisioned : Startup Workspace} {finish : Startup String}
    (answered : script.resolveWorkspace 0 = .ok workspace) (provisions : Provisions options workspace provisioned)
    (finishes : Finishes options (latestWorkspace.run (some workspace) provisioned.events) finish) :
    IsBounded options script
      ((finish.after provisioned.events).after [.progress .resolving none, .resolveWorkspace (.ok workspace)]) := by
  have noResolve : finish.events.countP isResolve = 0 := countP_none fun event member => (finishes.quiet event member).1
  have noEnsure : finish.events.countP isEnsure = 0 := countP_none fun event member => (finishes.quiet event member).2
  have noCheck : provisioned.events.countP isRuntimeCheck = 0 := countP_none provisions.unchecked
  refine ⟨?_, ?_, ?_, ?_, ?_, ?_, fun found => ?_, ?_⟩
  · have resolves := provisions.resolves
    simp only [after_events, List.countP_append, noResolve, List.countP_cons, List.countP_nil, isResolve]
    simp only [Bool.false_eq_true, if_false, if_true]
    omega
  · have ensures := provisions.ensures
    simp only [after_events, List.countP_append, noEnsure, List.countP_cons, List.countP_nil, isEnsure]
    simp only [Bool.false_eq_true, if_false]
    omega
  · intro event member ensure
    refine ⟨workspace, answered, ?_⟩
    simp only [after_events, List.mem_append, List.mem_cons, List.not_mem_nil, or_false] at member
    rcases member with (rfl | rfl) | inProvisioned | inFinish
    · cases ensure
    · cases ensure
    · exact provisions.needed event inProvisioned ensure
    · rw [(finishes.quiet event inFinish).2] at ensure
      cases ensure
  · have checks := finishes.checks
    simp only [after_events, List.countP_append, noCheck, List.countP_cons, List.countP_nil, isRuntimeCheck]
    simp only [Bool.false_eq_true, if_false]
    omega
  · have waited := provisions.waits
    have waits := finishes.waits
    simp only [after_events, List.countP_append, List.countP_cons, List.countP_nil, isWait]
    simp only [Bool.false_eq_true, if_false]
    omega
  · have later : latestWorkspace.Along ChecksReady (some workspace) (provisioned.events ++ finish.events) :=
      System.along_append.mpr ⟨checksReady_unchecked provisions.unchecked, finishes.checksReady⟩
    exact ⟨by rintro _ _ ⟨⟩, by rintro _ _ ⟨⟩, later⟩
  · have unchecked : .runtimeReady found (.ok true) ∉ provisioned.events := by
      intro member
      cases provisions.unchecked _ member
    simpa [unchecked] using finishes.returns found
  · obtain ⟨rest, whole⟩ := finishes.progress
    rcases provisions.progress with none | one
    · refine ⟨false, rest, ?_⟩
      simp only [after_events, List.filterMap_append, none, List.nil_append, List.append_assoc, whole]
      rfl
    · refine ⟨true, rest, ?_⟩
      simp only [after_events, List.filterMap_append, one, List.append_assoc, whole]
      rfl

/-- Whatever is answered and whenever it is aborted, a startup makes a bounded number of
calls, returns a workspace exactly if its runtime said it was ready, and reports its
stages in order. -/
theorem startPersonalWorkspace_bounded (options : StartupOptions) (script : StartupScript) :
    IsBounded options script (startPersonalWorkspace options script) := by
  rw [startPersonalWorkspace]
  split
  · exact ⟨Nat.zero_le _, Nat.zero_le _, by simp, Nat.zero_le _, Nat.zero_le _, trivial, by simp, false, List.nil_prefix⟩
  cases answered : script.resolveWorkspace 0 with
  | error failure =>
      refine ⟨?_, Nat.zero_le _, ?_, Nat.zero_le _, Nat.zero_le _, ?_, by simp, false, ?_⟩
      · exact Nat.le_add_right 1 _
      · simp [isEnsure]
      · exact ⟨by rintro _ _ ⟨⟩, by rintro _ _ ⟨⟩, trivial⟩
      · exact ⟨[.starting, .ready], rfl⟩
  | ok workspace =>
      simp only
      split
      · have nothing : Provisions options workspace ⟨[], .error .abort⟩ :=
          ⟨by simp, Nat.zero_le _, Nat.zero_le _, by simp, Nat.zero_le _, .inl rfl, fun _ ended => by cases ended⟩
        exact isBounded_parts answered nothing (finishes_failed .abort)
      · have provisions := provisionWorkspace_provisions options script workspace
        refine isBounded_parts answered provisions ?_
        cases outcome : (provisionWorkspace options script workspace).outcome with
        | error failure => exact finishes_failed failure
        | ok ready =>
            obtain ⟨isReady, seen⟩ := provisions.found ready outcome
            exact startRuntime_finishes isReady seen

/-- A new workspace whose runtime is ready at the third check. -/
example :
    (startPersonalWorkspace {}
      { aborted _ := false
        resolveWorkspace attempt := .ok ⟨"w1", if attempt = 0 then .pending else .ready⟩
        ensureRunning := .ok ⟨"w1", .provisioning⟩
        runtimeReady attempt := .ok (attempt = 2)
        provisioningWait _ := .ok ()
        runtimeWait _ := .ok () }).outcome = .ok "w1" := by
  rfl

end NebulaCloud.Web
