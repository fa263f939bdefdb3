import Mathlib.Data.List.Dedup
import Mathlib.Data.List.Sort
import Mathlib.Logic.Function.Iterate

namespace NebulaCloud.Ingress

/-! A reconciliation pass of the TCP listeners while nothing else touches them and
the ports of one set cannot be bound. -/

/-- The keys of `#listeners`, oldest first. -/
abbrev Listeners := List Int

/-- The port whose bind failed. -/
structure BindError where
  ingressPort : Int
deriving DecidableEq

variable (failing : Int → Bool)

def activate (listeners : Listeners) (ingressPort : Int) : Except BindError Listeners :=
  if ingressPort ∈ listeners then .ok listeners
  else if failing ingressPort then .error { ingressPort }
  else .ok (listeners ++ [ingressPort])

def deactivate (listeners : Listeners) (ingressPort : Int) : Listeners :=
  listeners.filter (· ≠ ingressPort)

def activeListenerPorts (listeners : Listeners) : List Int :=
  listeners.mergeSort

/-- `new Set(ports)`: the first mention of a port keeps its place. -/
def asSet (ports : List Int) : List Int := ports.reverse.dedup.reverse

/-- The second loop of the pass: the first rejection ends it. -/
def activateAll : Listeners → List Int → Listeners × Option BindError
  | listeners, [] => (listeners, none)
  | listeners, port :: rest =>
      match activate failing listeners port with
      | .error error => (listeners, some error)
      | .ok listeners => activateAll listeners rest

/-- The listeners after the pass, and its rejection. -/
def reconcileOnce (desiredPorts : List Int) (listeners : Listeners) :
    Listeners × Option BindError :=
  let desired := asSet desiredPorts
  let active := activeListenerPorts listeners
  let kept := (active.filter (· ∉ desired)).foldl deactivate listeners
  activateAll failing kept (desired.filter (· ∉ active))

/-- One pass of the interval, its rejection logged. -/
def pass (desiredPorts : List Int) (listeners : Listeners) : Listeners :=
  (reconcileOnce failing desiredPorts listeners).1

/-! ## What one pass does -/

/-- The desired ports without a listener, in the order in which they are tried. -/
def missing (desiredPorts : List Int) (listeners : Listeners) : List Int :=
  (asSet desiredPorts).filter (· ∉ listeners)

variable {failing} {desiredPorts : List Int} {listeners : Listeners} {port : Int}

theorem mem_asSet : port ∈ asSet desiredPorts ↔ port ∈ desiredPorts := by
  simp [asSet]

theorem nodup_missing : (missing desiredPorts listeners).Nodup :=
  (List.nodup_reverse.mpr (List.nodup_dedup _)).filter _

theorem mem_missing : port ∈ missing desiredPorts listeners ↔
    port ∈ desiredPorts ∧ port ∉ listeners := by
  simp [missing, mem_asSet]

theorem foldl_deactivate (closed : List Int) :
    closed.foldl deactivate listeners = listeners.filter (· ∉ closed) := by
  induction closed generalizing listeners with
  | nil => simp
  | cons port rest ih =>
      rw [List.foldl_cons, ih, deactivate, List.filter_filter]
      congr 1
      funext other
      simp [Bool.and_comm]

/-- Ports without a listener are opened up to the first that cannot be bound. -/
theorem activateAll_fresh {ports : List Int} (distinct : ports.Nodup)
    (fresh : ∀ port ∈ ports, port ∉ listeners) :
    (activateAll failing listeners ports).1 = listeners ++ ports.takeWhile (!failing ·) := by
  induction ports generalizing listeners with
  | nil => simp [activateAll]
  | cons port rest ih =>
      have absent := fresh port List.mem_cons_self
      obtain ⟨first, distinct⟩ := List.nodup_cons.mp distinct
      cases fails : failing port with
      | true => simp [activateAll, activate, absent, fails]
      | false =>
          have others : ∀ other ∈ rest, other ∉ listeners ++ [port] := by
            intro other member
            have known := fresh other (List.mem_cons_of_mem _ member)
            have different : other ≠ port := fun same => first (same ▸ member)
            simp [known, different]
          simp [activateAll, activate, absent, fails, ih distinct others]

theorem pass_eq : pass failing desiredPorts listeners =
    listeners.filter (· ∈ desiredPorts) ++
      (missing desiredPorts listeners).takeWhile (!failing ·) := by
  have sorted : ∀ port, port ∈ activeListenerPorts listeners ↔ port ∈ listeners :=
    fun port => (List.mergeSort_perm listeners _).mem_iff
  have tried : ((asSet desiredPorts).filter (· ∉ activeListenerPorts listeners)) =
      missing desiredPorts listeners := by
    simp only [missing, sorted]
  have kept : ((activeListenerPorts listeners).filter (· ∉ asSet desiredPorts)).foldl deactivate
      listeners = listeners.filter (· ∈ desiredPorts) := by
    rw [foldl_deactivate]
    apply List.filter_congr
    intro port member
    simp [sorted, mem_asSet, member]
  simp only [pass, reconcileOnce, tried, kept]
  apply activateAll_fresh nodup_missing
  intro port member active
  exact (mem_missing.mp member).2 (List.mem_of_mem_filter active)

theorem filter_not_takeWhile {ports : List Int} (distinct : ports.Nodup) :
    ports.filter (· ∉ ports.takeWhile (!failing ·)) = ports.dropWhile (!failing ·) := by
  induction ports with
  | nil => rfl
  | cons port rest ih =>
      obtain ⟨first, distinct⟩ := List.nodup_cons.mp distinct
      cases fails : failing port with
      | true => simp [fails]
      | false =>
          have others : rest.filter (· ∉ port :: rest.takeWhile (!failing ·)) =
              rest.filter (· ∉ rest.takeWhile (!failing ·)) := by
            apply List.filter_congr
            intro other member
            have different : other ≠ port := fun same => first (same ▸ member)
            simp [different]
          simp only [List.takeWhile_cons, List.dropWhile_cons, fails, Bool.not_false, if_true]
          rw [List.filter_cons_of_neg (by simp), others, ih distinct]

theorem takeWhile_dropWhile (ports : List Int) :
    (ports.dropWhile (!failing ·)).takeWhile (!failing ·) = [] := by
  induction ports with
  | nil => rfl
  | cons port rest ih => cases fails : failing port <;> simp [fails, ih]

theorem missing_pass : missing desiredPorts (pass failing desiredPorts listeners) =
    (missing desiredPorts listeners).dropWhile (!failing ·) := by
  rw [← filter_not_takeWhile nodup_missing]
  simp only [missing, List.filter_filter]
  apply List.filter_congr
  intro port member
  have desired := mem_asSet.mp member
  rw [pass_eq]
  simp [desired, missing, Bool.and_comm]

/-- Listeners that are not desired are closed and desired ones stay, whatever binds fail. -/
theorem pass_keeps (listeners : Listeners) :
    (∀ port ∈ pass failing desiredPorts listeners, port ∈ desiredPorts) ∧
      ∀ port ∈ listeners, port ∈ desiredPorts → port ∈ pass failing desiredPorts listeners := by
  rw [pass_eq]
  constructor
  · intro port member
    rcases List.mem_append.mp member with kept | opened
    · exact of_decide_eq_true (List.mem_filter.mp kept).2
    · exact (mem_missing.mp ((List.takeWhile_sublist _).subset opened)).1
  · intro port member desired
    exact List.mem_append_left _ (List.mem_filter.mpr ⟨member, decide_eq_true desired⟩)

/-- A second pass with the same inputs finds nothing to close and stops where the
first one stopped. -/
theorem pass_idempotent :
    pass failing desiredPorts (pass failing desiredPorts listeners) =
      pass failing desiredPorts listeners := by
  have desired := (@pass_keeps failing desiredPorts listeners).1
  rw [pass_eq, missing_pass, takeWhile_dropWhile, List.append_nil, List.filter_eq_self]
  exact fun port member => decide_eq_true (desired port member)

theorem iterate_pass (passes : Nat) :
    (pass failing desiredPorts)^[passes + 1] listeners = pass failing desiredPorts listeners := by
  induction passes with
  | zero => rfl
  | succ passes ih => rw [Function.iterate_succ_apply', ih, pass_idempotent]

/-- The listeners are the desired ones that were open or can be bound. -/
def Reconciled (failing : Int → Bool) (desiredPorts : List Int) (before after : Listeners) : Prop :=
  ∀ port, port ∈ after ↔ port ∈ desiredPorts ∧ (failing port = false ∨ port ∈ before)

/-- In the order in which the pass tries them, the ports that can be bound come first. -/
def FailuresLast (failing : Int → Bool) (ports : List Int) : Prop :=
  ports.Pairwise fun earlier later => failing earlier = true → failing later = true

theorem failuresLast_iff {ports : List Int} (distinct : ports.Nodup) :
    FailuresLast failing ports ↔
      ∀ port ∈ ports, failing port = false → port ∈ ports.takeWhile (!failing ·) := by
  induction ports with
  | nil => simp [FailuresLast]
  | cons port rest ih =>
      obtain ⟨first, distinct⟩ := List.nodup_cons.mp distinct
      have tail := ih distinct
      unfold FailuresLast at tail ⊢
      rw [List.pairwise_cons, tail]
      cases fails : failing port with
      | true =>
          simp only [List.takeWhile_cons, fails, Bool.not_true, Bool.false_eq_true, if_false,
            List.mem_cons, List.not_mem_nil, forall_eq_or_imp, forall_const]
          constructor
          · rintro ⟨all, _⟩
            refine ⟨by simp, fun other member opens => ?_⟩
            rw [all other member] at opens
            cases opens
          · rintro ⟨_, none⟩
            have all : ∀ other ∈ rest, failing other = true := by
              intro other member
              cases failed : failing other with
              | true => rfl
              | false => exact (none other member failed).elim
            refine ⟨all, fun other member opens => ?_⟩
            rw [all other member] at opens
            cases opens
      | false =>
          simp only [List.takeWhile_cons, fails, Bool.not_false, if_true, List.mem_cons,
            forall_eq_or_imp, true_or, implies_true, true_and, Bool.false_eq_true, false_implies]
          constructor
          · exact fun later other member opens => .inr (later other member opens)
          · intro later other member opens
            rcases later other member opens with rfl | found
            · exact absurd member first
            · exact found

theorem reconciled_iff_takeWhile :
    Reconciled failing desiredPorts listeners (pass failing desiredPorts listeners) ↔
      ∀ port ∈ missing desiredPorts listeners, failing port = false →
        port ∈ (missing desiredPorts listeners).takeWhile (!failing ·) := by
  constructor
  · intro reconciled port member opens
    obtain ⟨desired, absent⟩ := mem_missing.mp member
    have opened := (reconciled port).mpr ⟨desired, .inl opens⟩
    rw [pass_eq, List.mem_append] at opened
    rcases opened with kept | opened
    · exact absurd (List.mem_of_mem_filter kept) absent
    · exact opened
  · intro opened port
    constructor
    · intro member
      refine ⟨(pass_keeps listeners).1 port member, ?_⟩
      rw [pass_eq, List.mem_append] at member
      rcases member with kept | opened
      · exact .inr (List.mem_of_mem_filter kept)
      · have opens := List.all_eq_true.mp List.all_takeWhile port opened
        exact .inl (by simpa using opens)
    · rintro ⟨desired, reachable⟩
      by_cases active : port ∈ listeners
      · exact (pass_keeps listeners).2 port active desired
      · have opens := reachable.resolve_right active
        rw [pass_eq]
        exact List.mem_append_right _ (opened port (mem_missing.mpr ⟨desired, active⟩) opens)

/-- However many passes follow, they reach the desired listeners exactly when no
port that cannot be bound is tried before one that can. -/
theorem reconciled_iff (failing : Int → Bool) (desiredPorts : List Int) (listeners : Listeners)
    (passes : Nat) :
    Reconciled failing desiredPorts listeners
        ((pass failing desiredPorts)^[passes + 1] listeners) ↔
      FailuresLast failing (missing desiredPorts listeners) := by
  rw [iterate_pass, failuresLast_iff nodup_missing]
  exact reconciled_iff_takeWhile

/-- Port 20000 is taken by another process: 20001 and 20002 stay down. -/
theorem failing_port_blocks_later_ones :
    let failing := fun port : Int => port == 20000
    pass failing [20000, 20001, 20002] [] = [] ∧
      ¬ Reconciled failing [20000, 20001, 20002] [] (pass failing [20000, 20001, 20002] []) := by
  intro failing
  have blocked : pass failing [20000, 20001, 20002] [] = [] := by decide +kernel
  refine ⟨blocked, fun reconciled => ?_⟩
  have opened := (reconciled 20001).mpr (by decide +kernel)
  rw [blocked] at opened
  cases opened

end NebulaCloud.Ingress
