import DiagnosticAdapter.Locking.Progress
import DiagnosticAdapter.Sovd.DynamicRouter
import Mathlib.Data.List.Induction

/-!
# The published routes

A change puts its call before `recompose`, and whoever publishes holds the groups and the
finalizers for reading, so that what it publishes is still what comes of them.
-/

namespace DiagnosticAdapter.Sovd.DynamicRouter

open Function

variable {ApiRouter Router PathItem Path Route : Type}
  {framework : WebFramework ApiRouter Router PathItem}

/-- What routers promise about the route that serves a path. -/
structure WebFramework.Lawful (framework : WebFramework ApiRouter Router PathItem)
    (served : Router → Path → Option Route) : Prop where
  new : ∀ path, served framework.new path = none
  notFoundFallback : ∀ router path,
    served (framework.notFoundFallback router) path = served router path
  layer : ∀ layer router path, served (framework.layer layer router) path = served router path
  fallbackService : ∀ router acc path, served (framework.fallbackService router acc) path =
      (served router path).or (served acc path)

def latest {Value : Type} (has : ApiRouter → Option Value) (groups : RouteGroups ApiRouter) :
    Option Value :=
  groups.reverse.findSome? fun group => has group.2

section Specification

/-- What the requests register, whatever the locks do: the ids in the order of their insertion,
with their groups, and the requests of the calls that have not made their change. -/
structure Registry (ApiRouter Router : Type) where
  order : List UInt64
  group : UInt64 → Option ApiRouter
  finalizers : List (Router → Router)
  added : UInt64
  pending : Nat → Option (Request ApiRouter Router × UInt64)

namespace Registry

def new : Registry ApiRouter Router := ⟨[], fun _ => none, [], 0, fun _ => none⟩

variable (registry : Registry ApiRouter Router)

def register : Request ApiRouter Router × UInt64 → Registry ApiRouter Router
  | (.addRoutes routes, id) =>
    { registry with
      order := if id ∈ registry.order then registry.order else registry.order ++ [id]
      group := update registry.group id (some routes) }
  | (.replaceRoutes handle routes, _) =>
    if handle ∈ registry.order then
      { registry with group := update registry.group handle (some routes) }
    else registry
  | (.removeRoutes handle, _) => { registry with order := registry.order.erase handle }
  | (.addFinalizer finalizer, _) =>
    { registry with finalizers := registry.finalizers ++ [finalizer] }
  | (.getRouter, _) | (.getOpenapi, _) => registry

/-- A call makes its change when it runs on for the first time. -/
def follow : Event ApiRouter Router → Registry ApiRouter Router
  | .call task request =>
    { registry with
      added := match request with
        | .addRoutes _ => registry.added + 1
        | _ => registry.added
      pending := update registry.pending task (some (request, registry.added)) }
  | .acquire _ => registry
  | .poll task =>
    match registry.pending task with
    | some change =>
      { registry.register change with pending := update registry.pending task none }
    | none => registry

def groups : List ApiRouter := registry.order.filterMap registry.group

end Registry

def registered (event : ℕ → Option (Event ApiRouter Router)) : ℕ → Registry ApiRouter Router
  | 0 => .new
  | n + 1 =>
    match event n with
    | some now => (registered event n).follow now
    | none => registered event n

/-- The router of these groups, the latest first: each falls back to the ones before it. -/
def layered (framework : WebFramework ApiRouter Router PathItem) : List ApiRouter → Router
  | [] => framework.notFoundFallback framework.new
  | latest :: earlier => framework.fallbackService (framework.into latest)
      (layered framework earlier)

/-- The router that these finalizers make, the latest first. -/
def finished : List (Router → Router) → Router → Router
  | [], router => router
  | latest :: earlier, router => latest (finished earlier router)

end Specification

def OpenApi.item (api : OpenApi PathItem) (path : String) : Option PathItem :=
  (api.paths.getD []).lookup path

theorem latest_concat {Value : Type} (has : ApiRouter → Option Value)
    (groups : RouteGroups ApiRouter) (group : UInt64 × ApiRouter) :
    latest has (groups ++ [group]) = (has group.2).or (latest has groups) := by
  rw [latest, List.reverse_concat, List.findSome?_cons]
  cases has group.2 <;> rfl

variable {served : Router → Path → Option Route}

theorem served_applyBaseLayers (lawful : framework.Lawful served) (router : Router) (path : Path) :
    served (applyBaseLayers framework router) path = served router path := by
  rw [applyBaseLayers, lawful.layer, lawful.layer, lawful.layer]

theorem served_fallbackChain
    (lawful : framework.Lawful served) (groups : RouteGroups ApiRouter) (path : Path) :
    served (fallbackChain framework groups) path =
      latest (fun routes => served (framework.into routes) path) groups := by
  induction groups using List.reverseRecOn with
  | nil =>
    rw [fallbackChain, List.foldl_nil, lawful.notFoundFallback, lawful.new]
    rfl
  | append_singleton groups group ih =>
    rw [fallbackChain, List.foldl_concat, lawful.fallbackService, latest_concat, ← ih]
    rfl

theorem lookup_orInsert (paths : List (String × PathItem)) (entry : String × PathItem)
    (path : String) :
    (orInsert paths entry).lookup path = (paths.lookup path).or ([entry].lookup path) := by
  rw [orInsert]
  split
  case isTrue present =>
    by_cases mine : path = entry.1
    · subst mine
      have found : (paths.lookup entry.1).isSome = true := by
        obtain ⟨other, among, same⟩ := List.any_eq_true.mp present
        exact List.lookup_isSome_iff.mpr ⟨other, among, (beq_iff_eq.mp same) ▸ beq_self_eq_true _⟩
      exact (Option.or_of_isSome found).symm
    · have absent : (path == entry.1) = false := beq_false_of_ne mine
      rw [List.lookup_cons, absent, List.lookup_nil, Option.or_none]
  case isFalse => rw [List.lookup_append]

theorem lookup_foldl_orInsert (paths more : List (String × PathItem)) (path : String) :
    (more.foldl orInsert paths).lookup path = (paths.lookup path).or (more.lookup path) := by
  induction more generalizing paths with
  | nil => simp
  | cons entry more ih =>
    rw [List.foldl_cons, ih, lookup_orInsert, Option.or_assoc]
    rw [show entry :: more = [entry] ++ more from rfl, List.lookup_append]

theorem item_mergeApi (api : OpenApi PathItem) (group : UInt64 × ApiRouter) (path : String) :
    (mergeApi framework api group).item path =
      (api.item path).or ((framework.finishApi group.2).item path) := by
  cases documented : (framework.finishApi group.2).paths with
  | none => simp [mergeApi, OpenApi.item, documented]
  | some paths => simp [mergeApi, OpenApi.item, documented, lookup_foldl_orInsert]

theorem item_composeApi (groups : RouteGroups ApiRouter) (path : String) :
    (composeApi framework groups).item path =
      latest (fun routes => (framework.finishApi routes).item path) groups := by
  have merged : ∀ (groups : RouteGroups ApiRouter) api,
      (groups.foldl (mergeApi framework) api).item path = (api.item path).or
          (groups.findSome? fun group => (framework.finishApi group.2).item path) := by
    intro groups
    induction groups with
    | nil => simp
    | cons group groups ih =>
      intro api
      rw [List.foldl_cons, ih, item_mergeApi, Option.or_assoc, List.findSome?_cons]
      cases (framework.finishApi group.2).item path <;> rfl
  rw [composeApi, merged]
  rfl

theorem keys_replaceEntry (groups : RouteGroups ApiRouter) (id : UInt64) (routes : ApiRouter) :
    (replaceEntry groups id routes).map Prod.fst = groups.map Prod.fst := by
  rw [replaceEntry, List.map_map]
  refine List.map_congr_left fun group _ => ?_
  by_cases mine : group.1 = id
  · simp [mine]
  · simp [mine]

def Event.locking : Event ApiRouter Router → Locking.Event Nat Lock
  | .call task _ => .call task
  | .acquire lock => .acquire lock
  | .poll task => .poll task

def State.config (state : State ApiRouter Router PathItem) :
    Locking.Config Nat Lock (Phase ApiRouter Router PathItem) :=
  ⟨state.locks, state.calls⟩

variable {state next : State ApiRouter Router PathItem} {task : Nat}
  {phase : Phase ApiRouter Router PathItem}

theorem step_call {request : Request ApiRouter Router}
    (taken : state.step framework (.call task request) = some next) :
    state.calls task = none ∧ next = state.call task request := by
  rw [State.step] at taken
  split at taken
  case isTrue fresh =>
    cases taken
    exact ⟨Option.isNone_iff_eq_none.mp fresh, rfl⟩
  case isFalse => cases taken

theorem step_acquire {lock : Lock} (taken : state.step framework (.acquire lock) = some next) :
    ∃ locks, state.locks.acquire lock = some locks ∧ next = { state with locks := locks } := by
  obtain ⟨locks, acquired, rfl⟩ := Option.map_eq_some_iff.mp taken
  exact ⟨locks, acquired, rfl⟩

theorem step_poll (taken : state.step framework (.poll task) = some next) :
    ∃ phase, state.config.GrantedAt discipline task phase ∧
      next = state.resume framework task phase := by
  rw [State.step] at taken
  split at taken
  case h_1 => cases taken
  case h_2 phase called =>
    split at taken
    case isTrue granted =>
      cases taken
      exact ⟨phase, ⟨called, granted⟩, rfl⟩
    case isFalse => cases taken

theorem locking_resume (granted : state.config.GrantedAt discipline task phase) :
    Locking.Step discipline state.config (.poll task)
      (state.resume framework task phase).config := by
  cases phase with
  | insertRoutes id routes => exact .renew granted rfl (by decide : (4 : Nat) < 5)
  | replaceRoutes handle routes =>
    rw [State.resume]
    split
    · exact .renew granted rfl (by decide : (4 : Nat) < 5)
    · exact .finish granted
  | removeRoutes handle | pushFinalizer finalizer =>
    exact .renew granted rfl (by decide : (4 : Nat) < 5)
  | readGroups => exact .keep granted rfl (by decide : (3 : Nat) < 4)
  | readFinalizers => exact .keep granted rfl (by decide : (2 : Nat) < 3)
  | writeRouter composed api => exact .keep granted rfl (by decide : (1 : Nat) < 2)
  | writeOpenapi api | readRouter | readOpenapi => exact .finish granted

theorem locking_step {event : Event ApiRouter Router}
    (taken : state.step framework event = some next) :
    Locking.Step discipline state.config event.locking next.config := by
  cases event with
  | call task request =>
    obtain ⟨fresh, rfl⟩ := step_call taken
    cases request <;> exact .call fresh rfl
  | acquire lock =>
    obtain ⟨locks, acquired, rfl⟩ := step_acquire taken
    exact .acquire acquired
  | poll task =>
    obtain ⟨phase, granted, rfl⟩ := step_poll taken
    exact locking_resume granted

namespace Phase

def publishesRouter : Phase ApiRouter Router PathItem → Bool
  | readGroups | readFinalizers | writeRouter _ _ => true
  | _ => false

def publishesOpenapi : Phase ApiRouter Router PathItem → Bool
  | readGroups | readFinalizers | writeRouter _ _ | writeOpenapi _ => true
  | _ => false

/-- What the call has composed is what comes of these groups and finalizers. -/
def Fresh (framework : WebFramework ApiRouter Router PathItem)
    (groups : RouteGroups ApiRouter) (finalizers : List (Router → Router)) :
    Phase ApiRouter Router PathItem → Prop
  | writeRouter composed api =>
    composed = compose framework groups finalizers ∧ api = composeApi framework groups
  | writeOpenapi api => api = composeApi framework groups
  | _ => True

theorem fresh_of_not_mem_held {groups : RouteGroups ApiRouter} {finalizers : List (Router → Router)}
    (free : (Lock.routeGroups, Locking.Access.read) ∉ phase.held) :
    phase.Fresh framework groups finalizers := by
  cases phase <;> simp_all [held, Fresh]

theorem Fresh.of_finalizers {groups : RouteGroups ApiRouter}
    {finalizers others : List (Router → Router)}
    (fresh : phase.Fresh framework groups finalizers)
    (free : (Lock.finalizers, Locking.Access.read) ∉ phase.held) :
    phase.Fresh framework groups others := by
  cases phase <;> simp_all [held, Fresh]

end Phase

def Pending (publishes : Phase ApiRouter Router PathItem → Bool)
    (calls : Nat → Option (Phase ApiRouter Router PathItem)) : Prop :=
  ∃ task phase, calls task = some phase ∧ publishes phase = true

/-- The router is that of the groups and finalizers, or still the one of the beginning. -/
def State.RouterCurrent (framework : WebFramework ApiRouter Router PathItem)
    (state : State ApiRouter Router PathItem) : Prop :=
  state.router = compose framework state.routeGroups state.finalizers ∨
    state.router = applyBaseLayers framework framework.new ∧ state.routeGroups = [] ∧
      state.finalizers = []

/-- What is published is current, or somebody has still to publish. -/
structure State.Coherent (framework : WebFramework ApiRouter Router PathItem)
    (state : State ApiRouter Router PathItem) : Prop where
  placed : state.config.Placed discipline
  fresh : ∀ task phase, state.calls task = some phase →
    phase.Fresh framework state.routeGroups state.finalizers
  router : Pending Phase.publishesRouter state.calls ∨ state.RouterCurrent framework
  openapi : Pending Phase.publishesOpenapi state.calls ∨
    state.openapi = composeApi framework state.routeGroups

section Pending

variable {publishes : Phase ApiRouter Router PathItem → Bool}
  {calls : Nat → Option (Phase ApiRouter Router PathItem)}
  {call : Option (Phase ApiRouter Router PathItem)}

theorem Pending.update (pending : Pending publishes calls)
    (own : ∀ phase, calls task = some phase → publishes phase = true →
      ∃ later, call = some later ∧ publishes later = true) :
    Pending publishes (update calls task call) := by
  obtain ⟨other, phase, called, publish⟩ := pending
  by_cases mine : other = task
  · subst mine
    obtain ⟨later, current, still⟩ := own phase called publish
    exact ⟨other, later, by rw [update_self, current], still⟩
  · exact ⟨other, phase, by rw [update_of_ne mine, called], publish⟩

theorem pending_self (publish : publishes phase = true) :
    Pending publishes (update calls task (some phase)) :=
  ⟨task, phase, update_self .., publish⟩

end Pending

theorem fresh_update {calls : Nat → Option (Phase ApiRouter Router PathItem)}
    {call : Option (Phase ApiRouter Router PathItem)} {groups : RouteGroups ApiRouter}
    {finalizers : List (Router → Router)}
    (others : ∀ other phase, other ≠ task → calls other = some phase →
      phase.Fresh framework groups finalizers)
    (own : ∀ phase, call = some phase → phase.Fresh framework groups finalizers)
    (other : Nat) (phase : Phase ApiRouter Router PathItem)
    (called : update calls task call other = some phase) :
    phase.Fresh framework groups finalizers := by
  by_cases mine : other = task
  · subst mine
    rw [update_self] at called
    exact own phase called
  · rw [update_of_ne mine] at called
    exact others other phase mine called

theorem coherent_new : (State.new framework).Coherent framework where
  placed := ⟨Locking.Locks.sound_new, fun _ => Locking.Locks.holding_new _⟩
  fresh _ _ called := nomatch called
  router := .inr (.inr ⟨rfl, rfl, rfl⟩)
  openapi := .inr rfl

namespace State.Coherent

variable (coherent : state.Coherent framework)

include coherent

theorem of_unchanged {call : Option (Phase ApiRouter Router PathItem)}
    {locks : Locking.Locks Nat Lock} {nextId : UInt64}
    (placed : Locking.Config.Placed discipline ⟨locks, update state.calls task call⟩)
    (own : ∀ phase, call = some phase → phase.Fresh framework state.routeGroups state.finalizers)
    (router : ∀ phase, state.calls task = some phase → phase.publishesRouter = true →
      ∃ later, call = some later ∧ later.publishesRouter = true)
    (openapi : ∀ phase, state.calls task = some phase → phase.publishesOpenapi = true →
      ∃ later, call = some later ∧ later.publishesOpenapi = true) :
    State.Coherent framework { state with
      locks := locks
      nextId := nextId
      calls := update state.calls task call } where
  placed := placed
  fresh := fresh_update (fun other phase _ called => coherent.fresh other phase called) own
  router := coherent.router.imp_left fun pending => pending.update router
  openapi := coherent.openapi.imp_left fun pending => pending.update openapi

theorem call {request : Request ApiRouter Router} (fresh : state.calls task = none)
    (placed : (state.call task request).config.Placed discipline) :
    (state.call task request).Coherent framework := by
  have idle : ∀ {publishes : Phase ApiRouter Router PathItem → Bool}
      {call : Option (Phase ApiRouter Router PathItem)} phase, state.calls task = some phase →
        publishes phase = true → ∃ later, call = some later ∧ publishes later = true := by
    intro publishes call phase called
    rw [fresh] at called
    cases called
  cases request <;> refine coherent.of_unchanged placed ?_ idle idle <;> rintro _ ⟨⟩ <;> trivial

theorem changeGroups (granted : state.config.GrantedAt discipline task phase)
    (writes : phase.wanted = (.routeGroups, .write)) (groups : RouteGroups ApiRouter)
    (placed : ({ state with routeGroups := groups }.recompose task).config.Placed discipline) :
    State.Coherent framework ({ state with routeGroups := groups }.recompose task) where
  placed := placed
  fresh := fresh_update
    (fun _ _ apart called => Phase.fresh_of_not_mem_held
      (coherent.placed.alone granted writes called apart .read))
    (fun _ called => by cases called; trivial)
  router := .inl (pending_self rfl)
  openapi := .inl (pending_self rfl)

theorem changeFinalizers (granted : state.config.GrantedAt discipline task phase)
    (writes : phase.wanted = (.finalizers, .write)) (finalizers : List (Router → Router))
    (placed : ({ state with finalizers := finalizers }.recompose task).config.Placed discipline) :
    State.Coherent framework ({ state with finalizers := finalizers }.recompose task) where
  placed := placed
  fresh := fresh_update
    (fun other later apart called => (coherent.fresh other later called).of_finalizers
      (coherent.placed.alone granted writes called apart .read))
    (fun _ called => by cases called; trivial)
  router := .inl (pending_self rfl)
  openapi := .inl (pending_self rfl)

theorem finish (granted : state.config.GrantedAt discipline task phase)
    (router : phase.publishesRouter = false) (openapi : phase.publishesOpenapi = false)
    (placed : (state.finish task).config.Placed discipline) :
    (state.finish task).Coherent framework := by
  refine coherent.of_unchanged placed (fun _ called => nomatch called) ?_ ?_
  · intro current called publishes
    cases granted.1.symm.trans called
    rw [router] at publishes
    cases publishes
  · intro current called publishes
    cases granted.1.symm.trans called
    rw [openapi] at publishes
    cases publishes

theorem await {later : Phase ApiRouter Router PathItem}
    (fresh : later.Fresh framework state.routeGroups state.finalizers)
    (router : later.publishesRouter = true) (openapi : later.publishesOpenapi = true)
    (placed : (state.await task later).config.Placed discipline) :
    (state.await task later).Coherent framework :=
  coherent.of_unchanged placed (fun _ called => by cases called; exact fresh)
    (fun _ _ _ => ⟨later, rfl, router⟩) (fun _ _ _ => ⟨later, rfl, openapi⟩)

theorem resume (granted : state.config.GrantedAt discipline task phase)
    (placed : (state.resume framework task phase).config.Placed discipline) :
    (state.resume framework task phase).Coherent framework := by
  cases phase with
  | insertRoutes id routes => exact coherent.changeGroups granted rfl _ placed
  | replaceRoutes handle routes =>
    rw [State.resume] at placed ⊢
    split at placed
    case isTrue present =>
      rw [if_pos present]
      exact coherent.changeGroups granted rfl _ placed
    case isFalse missing =>
      rw [if_neg missing]
      exact coherent.finish granted rfl rfl placed
  | removeRoutes handle => exact coherent.changeGroups granted rfl _ placed
  | pushFinalizer finalizer => exact coherent.changeFinalizers granted rfl _ placed
  | readGroups => exact coherent.await trivial rfl rfl placed
  | readFinalizers => exact coherent.await ⟨rfl, rfl⟩ rfl rfl placed
  | writeRouter composed api =>
    obtain ⟨rfl, rfl⟩ := coherent.fresh task _ granted.1
    exact {
      placed
      fresh := fresh_update (fun other later _ called => coherent.fresh other later called)
        (fun _ called => by cases called; rfl)
      router := .inr (.inl rfl)
      openapi := .inl (pending_self rfl) }
  | writeOpenapi api =>
    obtain rfl := coherent.fresh task _ granted.1
    exact {
      placed
      fresh := fresh_update (fun other later _ called => coherent.fresh other later called)
        (fun _ called => by cases called)
      router := coherent.router.imp_left fun pending => by
        apply pending.update
        intro current called publishes
        cases granted.1.symm.trans called
        cases publishes
      openapi := .inr rfl }
  | readRouter | readOpenapi => exact coherent.finish granted rfl rfl placed

theorem step {event : Event ApiRouter Router}
    (taken : state.step framework event = some next) : next.Coherent framework := by
  have placed := coherent.placed.step (locking_step taken)
  cases event with
  | call task request =>
    obtain ⟨fresh, rfl⟩ := step_call taken
    exact coherent.call fresh placed
  | acquire lock =>
    obtain ⟨locks, acquired, rfl⟩ := step_acquire taken
    exact ⟨placed, coherent.fresh, coherent.router, coherent.openapi⟩
  | poll task =>
    obtain ⟨phase, granted, rfl⟩ := step_poll taken
    exact coherent.resume granted placed

end State.Coherent

/-- An infinite run; `none` where nothing happens. -/
structure Run (framework : WebFramework ApiRouter Router PathItem)
    (state : ℕ → State ApiRouter Router PathItem)
    (event : ℕ → Option (Event ApiRouter Router)) : Prop where
  start : state 0 = .new framework
  moves : ∀ n, match event n with
    | some taken => (state n).step framework taken = some (state (n + 1))
    | none => state (n + 1) = state n

/-- A lock that can be given to the head of its queue is given to it at last, and a task that can
run on runs on at last. -/
structure Fair (framework : WebFramework ApiRouter Router PathItem)
    (state : ℕ → State ApiRouter Router PathItem)
    (event : ℕ → Option (Event ApiRouter Router)) : Prop where
  acquires : ∀ lock n, ∃ m, n ≤ m ∧
    (event m = some (.acquire lock) ∨ (state m).step framework (.acquire lock) = none)
  polls : ∀ task n, ∃ m, n ≤ m ∧
    (event m = some (.poll task) ∨ (state m).step framework (.poll task) = none)

/-- No modifying call is in progress. -/
def State.Quiescent (state : State ApiRouter Router PathItem) : Prop :=
  ∀ task phase, state.calls task = some phase → phase.modifying = false

/-- The router and the document are those of what is registered. -/
structure Published (framework : WebFramework ApiRouter Router PathItem)
    (served : Router → Path → Option Route) (registry : Registry ApiRouter Router)
    (state : State ApiRouter Router PathItem) : Prop where
  router : ∃ chain,
    (chain = layered framework registry.groups.reverse ∨
      chain = framework.new ∧ registry.groups = []) ∧
    let based := framework.layer .methodNotAllowed
      (framework.layer (.timeout 30) (framework.layer .trace chain))
    state.router = finished registry.finalizers.reverse based ∧ ∀ path, served based path =
      registry.groups.reverse.findSome? fun routes => served (framework.into routes) path
  openapi : state.openapi = composeApi framework state.routeGroups
  documented : ∀ path, state.openapi.item path =
    registry.groups.reverse.findSome? fun routes => (framework.finishApi routes).item path

theorem Phase.modifying_of_publishesOpenapi {phase : Phase ApiRouter Router PathItem}
    (publishes : phase.publishesOpenapi = true) : phase.modifying = true := by
  cases phase <;> first | rfl | cases publishes

theorem Phase.modifying_of_publishesRouter {phase : Phase ApiRouter Router PathItem}
    (publishes : phase.publishesRouter = true) : phase.modifying = true := by
  cases phase <;> first | rfl | cases publishes

theorem finalize_eq_finished (finalizers : List (Router → Router)) (router : Router) :
    finalize finalizers router = finished finalizers.reverse router := by
  induction finalizers using List.reverseRecOn with
  | nil => rfl
  | append_singleton finalizers finalizer ih =>
    rw [finalize, List.foldl_concat, ← finalize, ih, List.reverse_concat]
    rfl

theorem fallbackChain_eq_layered (groups : RouteGroups ApiRouter) :
    fallbackChain framework groups = layered framework (groups.map Prod.snd).reverse := by
  induction groups using List.reverseRecOn with
  | nil => rfl
  | append_singleton groups group ih =>
    rw [fallbackChain, List.foldl_concat, ← fallbackChain, ih, List.map_append,
      List.reverse_append]
    rfl

theorem State.Coherent.published {registry : Registry ApiRouter Router}
    (lawful : framework.Lawful served) (coherent : state.Coherent framework)
    (quiescent : state.Quiescent) (groups : state.routeGroups.map Prod.snd = registry.groups)
    (finalizers : state.finalizers = registry.finalizers) :
    Published framework served registry state := by
  have published : ∀ {publishes : Phase ApiRouter Router PathItem → Bool},
      (∀ phase, publishes phase = true → phase.modifying = true) →
        ¬Pending publishes state.calls := by
    rintro publishes modifies ⟨task, phase, called, publish⟩
    have modifying := modifies phase publish
    rw [quiescent task phase called] at modifying
    cases modifying
  have openapi := coherent.openapi.resolve_left
    (published fun _ => Phase.modifying_of_publishesOpenapi)
  have router := coherent.router.resolve_left
    (published fun _ => Phase.modifying_of_publishesRouter)
  have latest {Value : Type} (has : ApiRouter → Option Value) :
      latest has state.routeGroups = registry.groups.reverse.findSome? has := by
    rw [← groups, ← List.map_reverse, List.findSome?_map]
    rfl
  refine ⟨?_, openapi, fun path => by rw [openapi, item_composeApi, latest]⟩
  obtain composed | ⟨first, noGroups, noFinalizers⟩ := router
  · refine ⟨_, .inl (by rw [← groups, ← fallbackChain_eq_layered]), ?_, fun path => ?_⟩
    · rw [composed, compose, finalize_eq_finished, finalizers, applyBaseLayers]
    · rw [← latest, ← served_fallbackChain lawful]
      exact served_applyBaseLayers lawful _ path
  · have none : registry.groups = [] := by rw [← groups, noGroups, List.map_nil]
    refine ⟨framework.new, .inr ⟨rfl, none⟩, ?_, fun path => ?_⟩
    · rw [first, ← finalizers, noFinalizers]
      rfl
    · rw [none]
      exact (served_applyBaseLayers lawful framework.new path).trans (lawful.new path)

section Registry

variable {registry : Registry ApiRouter Router}

/-- The await at which a call is that has yet to make its change. -/
def opening : Request ApiRouter Router × UInt64 → Phase ApiRouter Router PathItem
  | (.addRoutes routes, id) => .insertRoutes id routes
  | (.replaceRoutes handle routes, _) => .replaceRoutes handle routes
  | (.removeRoutes handle, _) => .removeRoutes handle
  | (.addFinalizer finalizer, _) => .pushFinalizer finalizer
  | (.getRouter, _) => .readRouter
  | (.getOpenapi, _) => .readOpenapi

/-- The call has yet to make its change, or is recomposing. -/
def Opens (change : Option (Request ApiRouter Router × UInt64))
    (phase : Phase ApiRouter Router PathItem) : Prop :=
  match change with
  | some change => phase = opening change
  | none => phase.publishesOpenapi = true

/-- The groups have these ids in this order. -/
structure Lists (order : List UInt64) (group : UInt64 → Option ApiRouter)
    (groups : RouteGroups ApiRouter) : Prop where
  ids : groups.map Prod.fst = order
  distinct : order.Nodup
  entries : ∀ entry ∈ groups, group entry.1 = some entry.2

namespace Lists

variable {order : List UInt64} {group : UInt64 → Option ApiRouter}
  {groups : RouteGroups ApiRouter} (lists : Lists order group groups) (id : UInt64)
  (routes : ApiRouter)

include lists

theorem map_snd : groups.map Prod.snd = order.filterMap group := by
  rw [← lists.ids, List.filterMap_map, ← List.filterMap_eq_map]
  exact List.filterMap_congr fun entry mem => (lists.entries entry mem).symm

theorem any_iff : (groups.any (·.1 == id)) = true ↔ id ∈ order := by
  rw [← lists.ids, List.any_eq_true, List.mem_map]
  simp only [beq_iff_eq]

theorem replace : Lists order (update group id (some routes)) (replaceEntry groups id routes) where
  ids := (keys_replaceEntry groups id routes).trans lists.ids
  distinct := lists.distinct
  entries entry mem := by
    obtain ⟨old, among, rfl⟩ := List.mem_map.mp mem
    split
    case isTrue => exact update_self ..
    case isFalse other => exact (update_of_ne other ..).trans (lists.entries old among)

theorem insert : Lists (if id ∈ order then order else order ++ [id])
    (update group id (some routes)) (insert groups id routes) := by
  rw [DynamicRouter.insert]
  by_cases present : id ∈ order
  · rw [if_pos present, if_pos ((lists.any_iff id).mpr present)]
    exact lists.replace id routes
  · rw [if_neg present, if_neg fun any => present ((lists.any_iff id).mp any)]
    refine ⟨by rw [List.map_append, lists.ids]; rfl, ?_, fun entry mem => ?_⟩
    · rw [← List.concat_eq_append]
      exact lists.distinct.concat present
    · obtain mem | mem := List.mem_append.mp mem
      · have other : entry.1 ≠ id := by
          intro same
          exact present (same ▸ lists.ids ▸ List.mem_map_of_mem mem)
        exact (update_of_ne other ..).trans (lists.entries entry mem)
      · rw [List.mem_singleton.mp mem]
        exact update_self ..

theorem remove : Lists (order.erase id) group (shiftRemove groups id) where
  ids := by
    rw [lists.distinct.erase_eq_filter, ← lists.ids, List.filter_map, shiftRemove]
    congr 2
    funext entry
    exact decide_not
  distinct := lists.distinct.erase id
  entries entry mem := lists.entries entry (List.mem_of_mem_filter mem)

end Lists

/-- The groups and finalizers are what is registered. -/
structure Reflects (registry : Registry ApiRouter Router)
    (state : State ApiRouter Router PathItem) : Prop where
  lists : Lists registry.order registry.group state.routeGroups
  finalizers : state.finalizers = registry.finalizers
  nextId : state.nextId = registry.added
  pending : ∀ task phase, state.calls task = some phase → Opens (registry.pending task) phase

theorem opens_update {calls : Nat → Option (Phase ApiRouter Router PathItem)}
    {pending : Nat → Option (Request ApiRouter Router × UInt64)}
    {call : Option (Phase ApiRouter Router PathItem)}
    {change : Option (Request ApiRouter Router × UInt64)}
    (others : ∀ task phase, calls task = some phase → Opens (pending task) phase)
    (own : ∀ phase, call = some phase → Opens change phase) (other : Nat)
    (phase : Phase ApiRouter Router PathItem) (called : update calls task call other = some phase) :
    Opens (update pending task change other) phase := by
  by_cases mine : other = task
  · subst mine
    rw [update_self] at called ⊢
    exact own phase called
  · rw [update_of_ne mine] at called ⊢
    exact others other phase called

theorem Reflects.resume (reflects : Reflects registry state)
    (granted : state.config.GrantedAt discipline task phase) :
    Reflects (registry.follow (.poll task)) (state.resume framework task phase) := by
  have opens := reflects.pending task phase granted.1
  -- whoever has made its change recomposes, or has ended
  have settled (call : Option (Phase ApiRouter Router PathItem))
      (own : ∀ phase, call = some phase → phase.publishesOpenapi = true) :=
    @opens_update _ _ _ task state.calls registry.pending call none reflects.pending own
  have recomposes := settled (some .readGroups) (by rintro _ ⟨⟩; rfl)
  have ends := settled none (by rintro _ ⟨⟩)
  rw [Registry.follow]
  cases made : registry.pending task with
  | none =>
    rw [made] at opens
    have same : update registry.pending task none = registry.pending := by
      rw [← made, update_eq_self]
    rw [same] at settled ends
    obtain ⟨lists, finalizers, nextId, _⟩ := reflects
    cases phase with
    | readGroups => exact ⟨lists, finalizers, nextId, settled _ (by rintro _ ⟨⟩; rfl)⟩
    | readFinalizers => exact ⟨lists, finalizers, nextId, settled _ (by rintro _ ⟨⟩; rfl)⟩
    | writeRouter composed api =>
      exact ⟨lists, finalizers, nextId, settled _ (by rintro _ ⟨⟩; rfl)⟩
    | writeOpenapi api => exact ⟨lists, finalizers, nextId, ends⟩
    | _ => cases opens
  | some change =>
    obtain ⟨request, id⟩ := change
    rw [made] at opens
    obtain ⟨lists, finalizers, nextId, _⟩ := reflects
    cases request with
    | addRoutes routes =>
      cases opens
      exact ⟨lists.insert id routes, finalizers, nextId, recomposes⟩
    | replaceRoutes handle routes =>
      cases opens
      change Reflects _ (state.resume framework task (.replaceRoutes handle routes))
      rw [State.resume]
      unfold Registry.register
      dsimp only
      by_cases present : handle ∈ registry.order
      · rw [if_pos present, if_pos ((lists.any_iff handle).mpr present)]
        exact ⟨lists.replace handle routes, finalizers, nextId, recomposes⟩
      · rw [if_neg present, if_neg fun any => present ((lists.any_iff handle).mp any)]
        exact ⟨lists, finalizers, nextId, ends⟩
    | removeRoutes handle =>
      cases opens
      exact ⟨lists.remove handle, finalizers, nextId, recomposes⟩
    | addFinalizer finalizer =>
      cases opens
      exact ⟨lists, congrArg (· ++ [finalizer]) finalizers, nextId, recomposes⟩
    | getRouter | getOpenapi =>
      cases opens
      exact ⟨lists, finalizers, nextId, ends⟩

theorem Reflects.step (reflects : Reflects registry state) {event : Event ApiRouter Router}
    (taken : state.step framework event = some next) : Reflects (registry.follow event) next := by
  cases event with
  | call task request =>
    obtain ⟨_, rfl⟩ := step_call taken
    obtain ⟨lists, finalizers, nextId, pending⟩ := reflects
    cases request with
    | addRoutes routes =>
      refine ⟨lists, finalizers, congrArg (· + 1) nextId, opens_update pending ?_⟩
      rintro _ ⟨⟩
      exact congrArg (Phase.insertRoutes · routes) nextId
    | _ =>
      refine ⟨lists, finalizers, nextId, opens_update pending ?_⟩
      rintro _ ⟨⟩
      rfl
  | acquire lock =>
    obtain ⟨locks, acquired, rfl⟩ := step_acquire taken
    exact ⟨reflects.lists, reflects.finalizers, reflects.nextId, reflects.pending⟩
  | poll task =>
    obtain ⟨phase, granted, rfl⟩ := step_poll taken
    exact reflects.resume granted

end Registry

section Runs

variable {states : ℕ → State ApiRouter Router PathItem}
  {event : ℕ → Option (Event ApiRouter Router)}

theorem Run.coherent (run : Run framework states event) (n : ℕ) :
    (states n).Coherent framework := by
  induction n with
  | zero => exact run.start ▸ coherent_new
  | succ n ih =>
    have moved := run.moves n
    cases taken : event n with
    | none =>
      rw [taken] at moved
      exact moved ▸ ih
    | some now =>
      rw [taken] at moved
      exact ih.step moved

theorem Run.reflects (run : Run framework states event) (n : ℕ) :
    Reflects (registered event n) (states n) := by
  induction n with
  | zero =>
    rw [run.start]
    exact ⟨⟨rfl, List.nodup_nil, fun _ mem => (List.not_mem_nil mem).elim⟩, rfl, rfl,
      fun _ _ called => by cases called⟩
  | succ n ih =>
    have moved := run.moves n
    rw [registered]
    cases taken : event n with
    | none =>
      rw [taken] at moved
      exact moved ▸ ih
    | some now =>
      rw [taken] at moved
      exact ih.step moved

theorem Run.fairRun (run : Run framework states event) (fair : Fair framework states event) :
    Locking.FairRun discipline (fun n => (states n).config)
      (fun n => (event n).map Event.locking) where
  placed := (run.coherent 0).placed
  moves n := by
    have moved := run.moves n
    cases taken : event n with
    | none =>
      rw [taken] at moved
      exact congrArg State.config moved
    | some now =>
      rw [taken] at moved
      exact locking_step moved
  acquires lock n := by
    obtain ⟨m, later, now | blocked⟩ := fair.acquires lock n
    · exact ⟨m, later, .inl (by rw [now]; rfl)⟩
    · exact ⟨m, later, .inr (Option.map_eq_none_iff.mp blocked)⟩
  polls task n := by
    obtain ⟨m, later, now | blocked⟩ := fair.polls task n
    · exact ⟨m, later, .inl (by rw [now]; rfl)⟩
    · refine ⟨m, later, .inr fun phase granted => ?_⟩
      have called : (states m).calls task = some phase := granted.1
      rw [State.step, called] at blocked
      simp only [ite_eq_right_iff, reduceCtorEq, imp_false] at blocked
      exact blocked granted.2

end Runs

/-- The groups and finalizers are always what the calls have registered; while no modifying call is
in progress the published router and document are those of the same; and every call comes to its
end. -/
theorem published_and_finishing (framework : WebFramework ApiRouter Router PathItem)
    (served : Router → Path → Option Route) (lawful : framework.Lawful served)
    (states : ℕ → State ApiRouter Router PathItem) (event : ℕ → Option (Event ApiRouter Router))
    (run : Run framework states event) :
    (∀ n, (states n).routeGroups.map Prod.fst = (registered event n).order ∧
      (states n).routeGroups.map Prod.snd = (registered event n).groups ∧
      (states n).finalizers = (registered event n).finalizers) ∧
    (∀ n, (states n).Quiescent →
      Published framework served (registered event n) (states n)) ∧
    (Fair framework states event → ∀ n task phase, (states n).calls task = some phase →
      ∃ m, n ≤ m ∧ (states m).calls task = none) := by
  refine ⟨fun n => ?_, fun n quiescent => ?_, fun fair n task phase called => ?_⟩
  · have reflects := run.reflects n
    exact ⟨reflects.lists.ids, reflects.lists.map_snd, reflects.finalizers⟩
  · have reflects := run.reflects n
    exact (run.coherent n).published lawful quiescent reflects.lists.map_snd reflects.finalizers
  · exact (run.fairRun fair).finishes called

section Script

def State.follow (framework : WebFramework ApiRouter Router PathItem)
    (script : List (Event ApiRouter Router)) : Option (State ApiRouter Router PathItem) :=
  script.foldlM (State.step framework) (State.new framework)

/-- The states of a run that follows the script and then rests. -/
def scripted (framework : WebFramework ApiRouter Router PathItem)
    (script : List (Event ApiRouter Router)) (n : ℕ) : State ApiRouter Router PathItem :=
  (State.follow framework (script.take n)).getD (State.new framework)

variable {script : List (Event ApiRouter Router)} {final : State ApiRouter Router PathItem}

theorem run_scripted (folded : State.follow framework script = some final) :
    Run framework (scripted framework script) (fun n => script[n]?) where
  start := rfl
  moves n := by
    cases taken : script[n]? with
    | none =>
      have ended := List.getElem?_eq_none_iff.mp taken
      rw [scripted, scripted, List.take_of_length_le ended,
        List.take_of_length_le (Nat.le_succ_of_le ended)]
    | some event =>
      have extended : script.take (n + 1) = script.take n ++ [event] := by
        rw [List.take_add_one, taken]
        rfl
      rw [State.follow, ← List.take_append_drop (n + 1) script, List.foldlM_append] at folded
      obtain ⟨next, after, -⟩ := Option.bind_eq_some_iff.mp folded
      have both := after
      rw [extended, List.foldlM_append] at both
      obtain ⟨current, before, last⟩ := Option.bind_eq_some_iff.mp both
      rw [scripted, scripted, State.follow, State.follow, before, after]
      simpa using last

theorem fair_scripted (folded : State.follow framework script = some final)
    (idle : ∀ task, final.calls task = none) (free : ∀ lock, (final.locks lock).queue = []) :
    Fair framework (scripted framework script) (fun n => script[n]?) := by
  have resting : ∀ n, ∃ m, n ≤ m ∧ scripted framework script m = final := by
    intro n
    refine ⟨max n script.length, le_max_left .., ?_⟩
    rw [scripted, List.take_of_length_le (le_max_right ..), folded, Option.getD_some]
  constructor
  · intro lock n
    obtain ⟨m, later, rests⟩ := resting n
    refine ⟨m, later, .inr ?_⟩
    rw [rests, State.step, Locking.Locks.acquire, Locking.RwLock.acquire, free lock]
    rfl
  · intro task n
    obtain ⟨m, later, rests⟩ := resting n
    refine ⟨m, later, .inr ?_⟩
    rw [rests, State.step, idle task]

end Script

/-- Routers as maps of the paths, with what answers the others. -/
structure Routes where
  route : String → Option String
  fallback : Option String

def routesFramework : WebFramework (List (String × String)) Routes String where
  new := ⟨fun _ => none, none⟩
  notFoundFallback router := { router with fallback := some "Resource not found" }
  fallbackService router acc := ⟨fun path => (router.route path).or (acc.route path), acc.fallback⟩
  layer _ router := router
  into routes := ⟨fun path => routes.lookup path, none⟩
  finishApi routes := ⟨some routes⟩

theorem lawful_routesFramework : routesFramework.Lawful Routes.route :=
  ⟨fun _ => rfl, fun _ _ => rfl, fun _ _ _ => rfl, fun _ _ _ => rfl⟩

/-- A second group is added while the first call recomposes. -/
def overlapping : List (Event (List (String × String)) Routes) :=
  [.call 0 (.addRoutes [("/foo", "a"), ("/bar", "a")]), .call 1 (.addRoutes [("/foo", "b")]),
    .acquire .routeGroups, .poll 0, .acquire .routeGroups, .poll 1, .acquire .routeGroups,
    .acquire .routeGroups, .poll 0, .poll 1, .acquire .finalizers, .acquire .finalizers, .poll 1,
    .poll 0, .acquire .router, .poll 1, .acquire .openapi, .poll 1, .acquire .router, .poll 0,
    .acquire .openapi, .poll 0]

def afterOverlapping : State (List (String × String)) Routes String :=
  scripted routesFramework overlapping overlapping.length

theorem folded_overlapping : State.follow routesFramework overlapping = some afterOverlapping :=
  rfl

theorem idle_afterOverlapping : ∀ task, afterOverlapping.calls task = none
  | 0 => rfl
  | 1 => rfl
  | _ + 2 => rfl

theorem overlapping_published :
    Published routesFramework Routes.route
        (registered (fun n => overlapping[n]?) overlapping.length) afterOverlapping ∧
      ∃ m, 2 ≤ m ∧ (scripted routesFramework overlapping m).calls 1 = none := by
  have run := run_scripted folded_overlapping
  have results :=
    published_and_finishing routesFramework Routes.route lawful_routesFramework _ _ run
  refine ⟨results.2.1 overlapping.length fun task phase called => ?_,
    results.2.2 (fair_scripted folded_overlapping idle_afterOverlapping
      fun lock => by cases lock <;> rfl) 2 1 _ rfl⟩
  cases (idle_afterOverlapping task).symm.trans called

end DiagnosticAdapter.Sovd.DynamicRouter
