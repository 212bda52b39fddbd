import DiagnosticAdapter.Locking.Tasks
import Mathlib.Data.Nat.Basic
import Mathlib.Order.RelClasses

/-!
# The dynamic router

Route groups and finalizers are changed under one lock each; `recompose` then reads both and
publishes the router and the document that come of them.  Every await is one for a lock.
-/

namespace DiagnosticAdapter.Sovd.DynamicRouter

inductive BaseLayer where
  | trace
  | timeout (seconds : Nat)
  | methodNotAllowed
  deriving DecidableEq, Repr

/-- The rest of a document is never set. -/
structure OpenApi (PathItem : Type) where
  paths : Option (List (String × PathItem))
  deriving DecidableEq, Repr

/-- What is used of the web framework and of the generator of documents. -/
structure WebFramework (ApiRouter Router PathItem : Type) where
  new : Router
  /-- The fallback is `sovd_not_found_handler`. -/
  notFoundFallback : Router → Router
  fallbackService : Router → Router → Router
  layer : BaseLayer → Router → Router
  into : ApiRouter → Router
  finishApi : ApiRouter → OpenApi PathItem

variable {ApiRouter Router PathItem : Type}

abbrev RouteGroups (ApiRouter : Type) := List (UInt64 × ApiRouter)

section Composition

variable (framework : WebFramework ApiRouter Router PathItem)

def applyBaseLayers (router : Router) : Router :=
  framework.layer .methodNotAllowed (framework.layer (.timeout 30) (framework.layer .trace router))

def fallbackChain (groups : RouteGroups ApiRouter) : Router :=
  groups.foldl (fun acc group => framework.fallbackService (framework.into group.2) acc)
    (framework.notFoundFallback framework.new)

def finalize (finalizers : List (Router → Router)) (router : Router) : Router :=
  finalizers.foldl (fun acc finalizer => finalizer acc) router

def compose (groups : RouteGroups ApiRouter) (finalizers : List (Router → Router)) : Router :=
  finalize finalizers (applyBaseLayers framework (fallbackChain framework groups))

def orInsert (paths : List (String × PathItem)) (entry : String × PathItem) :
    List (String × PathItem) :=
  if paths.any (·.1 == entry.1) then paths else paths ++ [entry]

/-- A path that a later group has already documented stays as it is. -/
def mergeApi (api : OpenApi PathItem) (group : UInt64 × ApiRouter) : OpenApi PathItem :=
  match (framework.finishApi group.2).paths with
  | some paths => ⟨some (paths.foldl orInsert (api.paths.getD []))⟩
  | none => api

def composeApi (groups : RouteGroups ApiRouter) : OpenApi PathItem :=
  groups.reverse.foldl (mergeApi framework) ⟨none⟩

end Composition

def replaceEntry (groups : RouteGroups ApiRouter) (id : UInt64) (routes : ApiRouter) :
    RouteGroups ApiRouter :=
  groups.map fun group => if group.1 = id then (id, routes) else group

def insert (groups : RouteGroups ApiRouter) (id : UInt64) (routes : ApiRouter) :
    RouteGroups ApiRouter :=
  if groups.any (·.1 == id) then replaceEntry groups id routes else groups ++ [(id, routes)]

def shiftRemove (groups : RouteGroups ApiRouter) (id : UInt64) : RouteGroups ApiRouter :=
  groups.filter (·.1 ≠ id)

inductive Lock where
  | routeGroups
  | finalizers
  | router
  | openapi
  deriving DecidableEq, Repr

namespace Lock

def level : Lock → Nat
  | routeGroups => 0
  | finalizers => 1
  | router => 2
  | openapi => 3

instance : Preorder Lock := Preorder.lift level

theorem lt_iff {lock other : Lock} : lock < other ↔ lock.level < other.level :=
  Iff.rfl

theorem level_le (lock : Lock) : lock.level ≤ 3 := by
  cases lock <;> decide

instance : WellFoundedGT Lock where
  wf := by
    refine Subrelation.wf (fun {lock other} above => ?_)
      (measure fun lock : Lock => 3 - lock.level).wf
    have higher : other.level < lock.level := lt_iff.mp above
    exact Nat.sub_lt_sub_left (Nat.lt_of_lt_of_le higher lock.level_le) higher

end Lock

inductive Request (ApiRouter Router : Type) where
  | addRoutes (routes : ApiRouter)
  | replaceRoutes (handle : UInt64) (routes : ApiRouter)
  | removeRoutes (handle : UInt64)
  | addFinalizer (finalizer : Router → Router)
  | getRouter
  | getOpenapi

/-- The await at which a call is, with what it has at hand there. -/
inductive Phase (ApiRouter Router PathItem : Type) where
  | insertRoutes (id : UInt64) (routes : ApiRouter)
  | replaceRoutes (handle : UInt64) (routes : ApiRouter)
  | removeRoutes (handle : UInt64)
  | pushFinalizer (finalizer : Router → Router)
  | readGroups
  | readFinalizers
  | writeRouter (composed : Router) (api : OpenApi PathItem)
  | writeOpenapi (api : OpenApi PathItem)
  | readRouter
  | readOpenapi

namespace Phase

def wanted : Phase ApiRouter Router PathItem → Lock × Locking.Access
  | insertRoutes _ _ | replaceRoutes _ _ | removeRoutes _ => (.routeGroups, .write)
  | pushFinalizer _ => (.finalizers, .write)
  | readGroups => (.routeGroups, .read)
  | readFinalizers => (.finalizers, .read)
  | writeRouter _ _ => (.router, .write)
  | writeOpenapi _ => (.openapi, .write)
  | readRouter => (.router, .read)
  | readOpenapi => (.openapi, .read)

/-- The guards of `recompose` live to its end. -/
def held : Phase ApiRouter Router PathItem → List (Lock × Locking.Access)
  | readFinalizers => [(.routeGroups, .read)]
  | writeRouter _ _ => [(.finalizers, .read), (.routeGroups, .read)]
  | writeOpenapi _ => [(.router, .write), (.finalizers, .read), (.routeGroups, .read)]
  | _ => []

def remaining : Phase ApiRouter Router PathItem → Nat
  | insertRoutes _ _ | replaceRoutes _ _ | removeRoutes _ | pushFinalizer _ => 5
  | readGroups => 4
  | readFinalizers => 3
  | writeRouter _ _ => 2
  | writeOpenapi _ | readRouter | readOpenapi => 1

/-- The call is one that changes the groups or the finalizers. -/
def modifying : Phase ApiRouter Router PathItem → Bool
  | readRouter | readOpenapi => false
  | _ => true

end Phase

def discipline : Locking.Discipline (Phase ApiRouter Router PathItem) Lock where
  wanted := Phase.wanted
  held := Phase.held
  remaining := Phase.remaining
  ascending phase guard among := by
    cases phase <;> simp only [Phase.held, List.mem_cons, List.not_mem_nil, or_false] at among
    case readFinalizers =>
      subst among
      simp [Lock.lt_iff, Phase.wanted, Lock.level]
    case writeRouter =>
      rcases among with rfl | rfl <;> simp [Lock.lt_iff, Phase.wanted, Lock.level]
    case writeOpenapi =>
      rcases among with rfl | rfl | rfl <;> simp [Lock.lt_iff, Phase.wanted, Lock.level]

structure State (ApiRouter Router PathItem : Type) where
  routeGroups : RouteGroups ApiRouter
  finalizers : List (Router → Router)
  router : Router
  openapi : OpenApi PathItem
  nextId : UInt64
  locks : Locking.Locks Nat Lock
  calls : Nat → Option (Phase ApiRouter Router PathItem)

inductive Event (ApiRouter Router : Type) where
  | call (task : Nat) (request : Request ApiRouter Router)
  /-- The head of the lock's queue is given the lock. -/
  | acquire (lock : Lock)
  /-- A task that has been given its lock runs to the next await. -/
  | poll (task : Nat)

namespace State

variable (framework : WebFramework ApiRouter Router PathItem)
  (state : State ApiRouter Router PathItem)

def new : State ApiRouter Router PathItem :=
  { routeGroups := []
    finalizers := []
    router := applyBaseLayers framework framework.new
    openapi := ⟨none⟩
    nextId := 0
    locks := .new
    calls := fun _ => none }

def await (task : Nat) (phase : Phase ApiRouter Router PathItem) :
    State ApiRouter Router PathItem :=
  { state with
    locks := state.locks.request task phase.wanted
    calls := Function.update state.calls task (some phase) }

def dropGuards (task : Nat) : State ApiRouter Router PathItem :=
  { state with locks := state.locks.release task }

def finish (task : Nat) : State ApiRouter Router PathItem :=
  { state with
    locks := state.locks.release task
    calls := Function.update state.calls task none }

def call (task : Nat) : Request ApiRouter Router → State ApiRouter Router PathItem
  | .addRoutes routes =>
    { state with nextId := state.nextId + 1 }.await task (.insertRoutes state.nextId routes)
  | .replaceRoutes handle routes => state.await task (.replaceRoutes handle routes)
  | .removeRoutes handle => state.await task (.removeRoutes handle)
  | .addFinalizer finalizer => state.await task (.pushFinalizer finalizer)
  | .getRouter => state.await task .readRouter
  | .getOpenapi => state.await task .readOpenapi

def recompose (task : Nat) : State ApiRouter Router PathItem :=
  (state.dropGuards task).await task .readGroups

def resume (task : Nat) : Phase ApiRouter Router PathItem → State ApiRouter Router PathItem
  | .insertRoutes id routes =>
    { state with routeGroups := insert state.routeGroups id routes }.recompose task
  | .replaceRoutes handle routes =>
    if state.routeGroups.any (·.1 == handle) then
      { state with
        routeGroups := replaceEntry state.routeGroups handle routes }.recompose task
    else state.finish task
  | .removeRoutes handle =>
    { state with routeGroups := shiftRemove state.routeGroups handle }.recompose task
  | .pushFinalizer finalizer =>
    { state with finalizers := state.finalizers ++ [finalizer] }.recompose task
  | .readGroups => state.await task .readFinalizers
  | .readFinalizers =>
    state.await task (.writeRouter (compose framework state.routeGroups state.finalizers)
      (composeApi framework state.routeGroups))
  | .writeRouter composed api => { state with router := composed }.await task (.writeOpenapi api)
  | .writeOpenapi api => { state with openapi := api }.finish task
  | .readRouter => state.finish task
  | .readOpenapi => state.finish task

def step : Event ApiRouter Router → Option (State ApiRouter Router PathItem)
  | .call task request =>
    if (state.calls task).isNone then some (state.call task request) else none
  | .acquire lock => (state.locks.acquire lock).map fun locks => { state with locks := locks }
  | .poll task =>
    match state.calls task with
    | none => none
    | some phase =>
      if (task, phase.wanted.2) ∈ (state.locks phase.wanted.1).holders then
        some (state.resume framework task phase)
      else none

end State

end DiagnosticAdapter.Sovd.DynamicRouter
