import DiagnosticAdapter.Lookup.ServiceLookup

/-!
# What the lookup cache changes

A cached location stands for what the search finds, as long as an entry is used for the
question it was stored for and the variant index does not move between the steps of a
lookup that read it.
-/

namespace DiagnosticAdapter.Lookup

open Effects Function
open Codec (DiagServiceError)
open Kernel (Text)

section

variable {data : EcuData} {query : LookupQuery} {current : CurrentVariant}

theorem LookupQuery.getElem?_of_find {services : List DiagService} {service : DiagService}
    {index : Nat} (found : query.find services = some (service, index)) :
    services[index]? = some service := by
  have mem := List.mem_of_find?_eq_some found
  exact List.mk_mem_zipIdx_iff_getElem?.mp mem

variable {found : DiagService × CacheLocation}

theorem EcuData.loaded_of_searchInVariant
    (searched : data.searchInVariant query current = some found) : current.loaded = true := by
  by_contra unloaded
  simp [searchInVariant, diagServices, variantOrBase, unloaded] at searched

theorem EcuData.loaded_of_searchInParentRefs
    (searched : data.searchInParentRefs query current = some found) :
    current.loaded = true := by
  by_contra unloaded
  simp [searchInParentRefs, getVariantParentRefServices, variantOrBase, unloaded] at searched

theorem EcuData.loaded_of_searchWithLocation
    (searched : data.searchWithLocation query current = some found) :
    current.loaded = true := by
  rcases Option.or_eq_some_iff.mp searched with own | ⟨-, inherited⟩
  · exact loaded_of_searchInVariant own
  · exact loaded_of_searchInParentRefs inherited

theorem EcuData.searchWithLocation_unloaded (data : EcuData) (query : LookupQuery)
    (index : Option Nat) : data.searchWithLocation query ⟨index, false⟩ = none := by
  by_contra searched
  obtain ⟨found, searched⟩ := Option.ne_none_iff_exists'.mp searched
  cases loaded_of_searchWithLocation searched

theorem EcuData.getServiceByLocation_of_searchWithLocation {service : DiagService}
    {location : CacheLocation}
    (searched : data.searchWithLocation query current = some (service, location)) :
    data.getServiceByLocation current location = some (some service) := by
  rcases Option.or_eq_some_iff.mp searched with own | ⟨-, inherited⟩
  · obtain ⟨⟨found, index⟩, matched, same⟩ := Option.map_eq_some_iff.mp own
    obtain ⟨services, present, matched⟩ := Option.bind_eq_some_iff.mp matched
    cases same
    simp only [getServiceByLocation, present, LookupQuery.getElem?_of_find matched, Option.map_some]
  · obtain ⟨⟨found, index⟩, matched, same⟩ := Option.map_eq_some_iff.mp inherited
    obtain ⟨services, present, matched⟩ := Option.bind_eq_some_iff.mp matched
    cases same
    simp only [getServiceByLocation, present, Option.bind_some,
      LookupQuery.getElem?_of_find matched]

theorem EcuData.getServiceByLocation_unloaded (data : EcuData) (index : Option Nat)
    (location : CacheLocation) :
    data.getServiceByLocation ⟨index, false⟩ location = some none := by
  cases location <;> rfl

end

def Agrees : Except DiagServiceError DiagService → Option (DiagService × CacheLocation) → Prop
  | .ok service, some (found, _) => service = found
  | .error (.notFound _), none => True
  | _, _ => False

theorem LookupQuery.agrees_notAtStoredLocation (query : LookupQuery) :
    Agrees (.error query.notAtStoredLocation) none := trivial

theorem LookupQuery.agrees_notFoundAnywhere (query : LookupQuery) :
    Agrees (.error query.notFoundAnywhere) none := by
  unfold notFoundAnywhere
  split <;> trivial

/-- The call has the answer of its own search in a variant that was current meanwhile. -/
def LookupCall.Transparent (data : EcuData) (lookup : LookupCall) : Prop :=
  match lookup.phase with
  | .returned result =>
    ∃ current ∈ lookup.seen, Agrees result (data.searchWithLocation lookup.query current)
  | .panicked => False
  | _ => True

def Transparent (data : EcuData) (state : LookupState) : Prop :=
  ∀ call lookup, state.calls call = some lookup → lookup.Transparent data

/-- An entry is used only for the question it was stored for, and the variant does not
change between two steps of a lookup that have to be about one variant. -/
def LookupState.stable (data : EcuData) (state : LookupState) : LookupEvent → Bool
  | .advance call =>
    match state.calls call with
    | some lookup =>
      match lookup.phase with
      | .indexed variantIndex =>
        (state.cachedEntry lookup.query variantIndex).all fun cached =>
          cached.1.query == lookup.query
      | .hit variantIndex _ => state.current.index == variantIndex
      | .searchingParents _ => (data.searchInVariant lookup.query state.current).isNone
      | .found _ _ searched => state.current.index == searched
      | _ => true
    | none => true
  | _ => true

def LookupCall.Sound (data : EcuData) (lookup : LookupCall) : Prop :=
  match lookup.phase with
  | .started | .indexed _ | .missed _ | .searchingParents _ => True
  | .hit variantIndex location =>
    ∃ service, data.searchWithLocation lookup.query ⟨variantIndex, true⟩ = some (service, location)
  | .found service location searched =>
    ∃ current ∈ lookup.seen, current.index = searched ∧
      data.searchWithLocation lookup.query current = some (service, location)
  | .labelled service location label =>
    (∃ current ∈ lookup.seen,
      data.searchWithLocation lookup.query current = some (service, location)) ∧
    data.searchWithLocation lookup.query ⟨label, true⟩ = some (service, location)
  | .notFound _ => ∃ current ∈ lookup.seen, data.searchWithLocation lookup.query current = none
  | .returned _ | .panicked => lookup.Transparent data

theorem LookupCall.Sound.transparent {data : EcuData} {lookup : LookupCall}
    (sound : lookup.Sound data) : lookup.Transparent data := by
  cases phase : lookup.phase
  case returned => simpa only [Sound, phase] using sound
  case panicked => simpa only [Sound, phase] using sound
  all_goals simp only [Transparent, phase]

theorem LookupCall.Sound.see {data : EcuData} {lookup : LookupCall} (sound : lookup.Sound data)
    (current : CurrentVariant) : (lookup.see current).Sound data := by
  unfold LookupCall.see
  split
  case isFalse => exact sound
  case isTrue pending =>
    cases phase : lookup.phase
    case returned => simp [isPending, phase] at pending
    case panicked => simp [isPending, phase] at pending
    case found =>
      simp only [Sound, phase] at sound ⊢
      obtain ⟨seen, mem, found⟩ := sound
      exact ⟨seen, List.mem_cons_of_mem _ mem, found⟩
    case labelled =>
      simp only [Sound, phase] at sound ⊢
      obtain ⟨⟨seen, mem, found⟩, stored⟩ := sound
      exact ⟨⟨seen, List.mem_cons_of_mem _ mem, found⟩, stored⟩
    case notFound =>
      simp only [Sound, phase] at sound ⊢
      obtain ⟨seen, mem, found⟩ := sound
      exact ⟨seen, List.mem_cons_of_mem _ mem, found⟩
    case hit => simpa only [Sound, phase] using sound
    all_goals simp only [Sound]

theorem LookupCall.see_isPending (current : CurrentVariant) (lookup : LookupCall) :
    (lookup.see current).isPending = lookup.isPending := by
  unfold LookupCall.see
  split <;> rfl

/-- A stored location is where the search finds the service in a variant of that index. -/
structure Located (data : EcuData) (state : LookupState) : Prop where
  entries : ∀ key entry location, state.dbCache key = some entry →
    entry.location = some location → ∃ service,
      data.searchWithLocation entry.query ⟨entry.variantIndex, true⟩ = some (service, location)
  calls : ∀ call lookup, state.calls call = some lookup → lookup.Sound data
  seen : ∀ call lookup, state.calls call = some lookup → lookup.isPending = true →
    state.current ∈ lookup.seen

theorem located_initial (data : EcuData) : Located data .initial := by
  refine ⟨?_, ?_, ?_⟩
  · intro key entry location present
    cases present
  · intro call lookup present
    cases present
  · intro call lookup present
    cases present

section

variable {data : EcuData} {state next : LookupState}

theorem Located.lookup (located : Located data state) (query : LookupQuery) :
    Located data (state.lookup query) := by
  refine ⟨located.entries, ?_, ?_⟩
  · intro call lookup present
    obtain ⟨-, rfl⟩ | ⟨-, before⟩ := cases_of_update present
    · trivial
    · exact located.calls call lookup before
  · intro call lookup present pending
    obtain ⟨-, rfl⟩ | ⟨-, before⟩ := cases_of_update present
    · exact List.mem_cons_self
    · exact located.seen call lookup before pending

variable {lookup : LookupCall} {call : Nat}

theorem Located.enter (located : Located data state)
    {phase : LookupPhase} (present : state.calls call = some lookup)
    (pending : lookup.isPending = true)
    (sound : LookupCall.Sound data { lookup with phase := phase }) :
    Located data (state.enter call lookup phase) := by
  refine ⟨located.entries, ?_, ?_⟩
  · intro other found isThere
    obtain ⟨-, rfl⟩ | ⟨-, before⟩ := cases_of_update isThere
    · exact sound
    · exact located.calls other found before
  · intro other found isThere otherPending
    obtain ⟨-, rfl⟩ | ⟨-, before⟩ := cases_of_update isThere
    · exact located.seen call lookup present pending
    · exact located.seen other found before otherPending

variable {variantIndex : Option Nat}

theorem Located.insert (located : Located data state) {query : LookupQuery}
    {location : Option CacheLocation} (searched : ∀ found, location = some found → ∃ service,
      data.searchWithLocation query ⟨variantIndex, true⟩ = some (service, found)) :
    Located data (state.insert query variantIndex location) := by
  refine ⟨?_, located.calls, located.seen⟩
  intro key entry found present stored
  obtain ⟨-, rfl⟩ | ⟨-, before⟩ := cases_of_update present
  · exact searched found stored
  · exact located.entries key entry found before stored

theorem Located.reset (located : Located data state) : Located data state.reset := by
  refine ⟨?_, located.calls, located.seen⟩
  intro key entry location present
  cases present

theorem Located.become (located : Located data state) (current : CurrentVariant) :
    Located data (state.become current) := by
  refine ⟨located.entries, ?_, ?_⟩
  · intro call lookup present
    obtain ⟨before, isThere, same⟩ := Option.map_eq_some_iff.mp present
    rw [← same]
    exact (located.calls call before isThere).see current
  · intro call lookup present pending
    obtain ⟨before, isThere, same⟩ := Option.map_eq_some_iff.mp present
    rw [← same, LookupCall.see_isPending] at pending
    rw [← same]
    simp only [LookupCall.see, pending, if_true]
    exact List.mem_cons_self

variable {location : CacheLocation}

theorem Located.of_cachedEntry (located : Located data state) {query : LookupQuery}
    {entry : CachedService} (cached : state.cachedEntry query variantIndex = some (entry, location))
    (sameQuery : entry.query = query) : ∃ service,
      data.searchWithLocation query ⟨variantIndex, true⟩ = some (service, location) := by
  unfold LookupState.cachedEntry at cached
  split at cached
  case h_2 => cases cached
  case h_1 found present =>
    split at cached
    case isFalse => cases cached
    case isTrue label =>
      obtain ⟨stored, isStored, same⟩ := Option.map_eq_some_iff.mp cached
      cases same
      rw [← label, ← sameQuery]
      exact located.entries query.cacheKey entry location present isStored

section

variable (located : Located data state) (present : state.calls call = some lookup)

include located present

theorem Located.resolve (phase : lookup.phase = .hit variantIndex location)
    (sameIndex : state.current.index = variantIndex)
    (taken : state.advance data call lookup = some next) : Located data next := by
  have pending : lookup.isPending = true := by simp [LookupCall.isPending, phase]
  have seen := located.seen call lookup present pending
  have sound := located.calls call lookup present
  simp only [LookupCall.Sound, phase] at sound
  obtain ⟨service, searched⟩ := sound
  cases loaded : state.current.loaded with
  | true =>
    have isCurrent : state.current = ⟨variantIndex, true⟩ := by
      rw [← sameIndex, ← loaded]
    have resolved := data.getServiceByLocation_of_searchWithLocation searched
    rw [← isCurrent] at resolved
    simp only [LookupState.advance, phase, resolved, Option.some.injEq] at taken
    cases taken
    apply located.enter present pending
    refine ⟨state.current, seen, ?_⟩
    rw [isCurrent]
    simp only [searched, Agrees]
  | false =>
    have isCurrent : state.current = ⟨variantIndex, false⟩ := by
      rw [← sameIndex, ← loaded]
    have resolved := data.getServiceByLocation_unloaded variantIndex location
    rw [← isCurrent] at resolved
    simp only [LookupState.advance, phase, resolved, Option.some.injEq] at taken
    cases taken
    apply located.enter present pending
    refine ⟨state.current, seen, ?_⟩
    rw [isCurrent, EcuData.searchWithLocation_unloaded]
    exact lookup.query.agrees_notAtStoredLocation

theorem Located.find {service : DiagService} (pending : lookup.isPending = true)
    (searched : data.searchWithLocation lookup.query state.current = some (service, location)) :
    Located data (state.enter call lookup (.found service location state.current.index)) := by
  apply located.enter present pending
  exact ⟨state.current, located.seen call lookup present pending, rfl, searched⟩

theorem Located.advance (stable : state.stable data (.advance call) = true)
    (taken : state.advance data call lookup = some next) : Located data next := by
  simp only [LookupState.stable, present] at stable
  have sound := located.calls call lookup present
  cases phase : lookup.phase
  case started =>
    simp only [LookupState.advance, phase, Option.some.injEq] at taken
    cases taken
    apply located.enter present (by simp [LookupCall.isPending, phase])
    trivial
  case indexed variantIndex =>
    have pending : lookup.isPending = true := by simp [LookupCall.isPending, phase]
    simp only [phase] at stable
    simp only [LookupState.advance, phase] at taken
    split at taken
    case h_1 entry location cached =>
      cases taken
      rw [cached] at stable
      apply located.enter present pending
      exact located.of_cachedEntry cached (by simpa using stable)
    case h_2 =>
      cases taken
      apply located.enter present pending
      trivial
  case hit variantIndex location =>
    simp only [phase, beq_iff_eq] at stable
    exact located.resolve present phase stable taken
  case missed variantIndex =>
    have pending : lookup.isPending = true := by simp [LookupCall.isPending, phase]
    simp only [LookupState.advance, phase] at taken
    split at taken
    case h_1 service location searched =>
      cases taken
      apply located.find present pending
      simp only [EcuData.searchWithLocation, searched, Option.some_or]
    case h_2 =>
      cases taken
      apply located.enter present pending
      trivial
  case searchingParents variantIndex =>
    have pending : lookup.isPending = true := by simp [LookupCall.isPending, phase]
    simp only [phase, Option.isNone_iff_eq_none] at stable
    simp only [LookupState.advance, phase] at taken
    split at taken
    case h_1 service location searched =>
      cases taken
      apply located.find present pending
      simp only [EcuData.searchWithLocation, stable, searched, Option.none_or]
    case h_2 searched =>
      cases taken
      apply located.enter present pending
      refine ⟨state.current, located.seen call lookup present pending, ?_⟩
      simp only [EcuData.searchWithLocation, stable, searched, Option.none_or]
  case found service location searched =>
    simp only [phase, beq_iff_eq] at stable
    simp only [LookupCall.Sound, phase] at sound
    obtain ⟨current, mem, sameIndex, found⟩ := sound
    simp only [LookupState.advance, phase, Option.some.injEq] at taken
    cases taken
    apply located.enter present (by simp [LookupCall.isPending, phase])
    have isCurrent : (⟨state.current.index, true⟩ : CurrentVariant) = current := by
      rw [stable, ← sameIndex, ← EcuData.loaded_of_searchWithLocation found]
    exact ⟨⟨current, mem, found⟩, isCurrent ▸ found⟩
  case labelled service location label =>
    simp only [LookupCall.Sound, phase] at sound
    obtain ⟨⟨current, mem, found⟩, stored⟩ := sound
    simp only [LookupState.advance, phase, Option.some.injEq] at taken
    cases taken
    have inserted : Located data (state.insert lookup.query label (some location)) := by
      apply located.insert
      intro other same
      cases same
      exact ⟨service, stored⟩
    apply inserted.enter present (by simp [LookupCall.isPending, phase])
    refine ⟨current, mem, ?_⟩
    simp only [found, Agrees]
  case notFound variantIndex =>
    simp only [LookupCall.Sound, phase] at sound
    obtain ⟨current, mem, missing⟩ := sound
    simp only [LookupState.advance, phase, Option.some.injEq] at taken
    cases taken
    have inserted : Located data (state.insert lookup.query variantIndex none) := by
      apply located.insert
      intro other same
      cases same
    apply inserted.enter present (by simp [LookupCall.isPending, phase])
    refine ⟨current, mem, ?_⟩
    simp only [missing]
    exact lookup.query.agrees_notFoundAnywhere
  case returned => simp [LookupState.advance, phase] at taken
  case panicked => simp [LookupState.advance, phase] at taken

end

theorem Located.step (located : Located data state) {context : LookupContext}
    (isData : context.ecuData = data) {event : LookupEvent}
    (stable : state.stable data event = true) (taken : state.step context event = some next) :
    Located data next := by
  cases event with
  | lookup diagComm subfunctionMask =>
    cases taken
    exact located.lookup _
  | advance call =>
    simp only [LookupState.step] at taken
    split at taken
    case h_1 lookup present => exact located.advance present stable (isData ▸ taken)
    case h_2 => cases taken
  | setVariant name =>
    simp only [LookupState.step] at taken
    split at taken
    case h_1 => cases taken
    case h_2 =>
      cases taken
      split
      · exact ⟨located.reset.entries, located.calls, located.seen⟩
      · exact ⟨located.entries, located.calls, located.seen⟩
  | writeVariant =>
    simp only [LookupState.step] at taken
    split at taken
    case h_1 name _ =>
      cases taken
      have written := located.become
        { state.current with index := context.ecuData.position name }
      exact ⟨written.entries, written.calls, written.seen⟩
    case h_2 => cases taken
  | ecuConnected =>
    cases taken
    exact located.become _
  | clearVariantAndUnload =>
    cases taken
    exact located.reset.become _
  | load =>
    cases taken
    exact located.become _

end

def StableLookupStep (context : LookupContext) (state : LookupState) (event : LookupEvent)
    (next : LookupState) : Prop :=
  state.step context event = some next ∧ state.stable context.ecuData event = true

theorem located_of_run {context : LookupContext} {events : List LookupEvent}
    {state : LookupState} (run : Run (StableLookupStep context) .initial events state) :
    Located context.ecuData state := by
  apply Run.keeps (fun _ => Located context.ecuData) (located_initial context.ecuData) _ run
  intro _ event state next located ⟨taken, stable⟩
  exact located.step rfl stable taken

theorem transparent_of_run {context : LookupContext} {events : List LookupEvent}
    {state : LookupState} (run : Run (StableLookupStep context) .initial events state) :
    Transparent context.ecuData state := by
  intro call lookup present
  exact ((located_of_run run).calls call lookup present).transparent

/-- A base variant and a variant that inherits the service of the same name. -/
def identEcu : LookupContext where
  ecuData :=
    [{ isBaseVariant := true
       diagLayer := some ⟨none, some [⟨some ['i', 'd'], some 0x22, none, 0⟩]⟩
       parentRefs := none },
     { isBaseVariant := false
       diagLayer := some ⟨some ['B'], some [⟨some ['x'], some 0x22, none, 1⟩]⟩
       parentRefs := some [.ecuSharedData []
         (some ⟨none, some [⟨some ['I', 'd', '1'], some 0x22, none, 2⟩]⟩)] }]
  actionAffixes := ⟨[], [], [], [], [], .atEnd⟩
  toLowercase := List.map Char.toLower

/-- `DiagComm::new("ID", _)`. -/
def identComm (type : DiagCommType) : DiagComm where
  name := ['I', 'D']
  type := type
  lookupName := some ['I', 'D']
  subfunctionId := none

/-- Before the variant is known, with it, from the cache, and after the ECU has come back. -/
def lookupsAcrossVariants : List LookupEvent :=
  [.lookup (identComm .data) none, .advance 0, .advance 0, .advance 0, .advance 0, .advance 0,
    .setVariant ['B'], .writeVariant,
    .lookup (identComm .data) none, .advance 1, .advance 1, .advance 1, .advance 1, .advance 1,
    .advance 1,
    .lookup (identComm .data) none, .advance 2, .advance 2, .advance 2,
    .ecuConnected,
    .lookup (identComm .data) none, .advance 3, .advance 3, .advance 3, .advance 3, .advance 3]

theorem transparent_lookupsAcrossVariants :
    ∃ (state : LookupState) (base first second third : LookupCall),
      Run (StableLookupStep identEcu) .initial lookupsAcrossVariants state ∧
      state.calls 0 = some base ∧ state.calls 1 = some first ∧ state.calls 2 = some second ∧
      state.calls 3 = some third ∧
      base.phase = .returned (.ok ⟨some ['i', 'd'], some 0x22, none, 0⟩) ∧
      first.phase = .returned (.ok ⟨some ['I', 'd', '1'], some 0x22, none, 2⟩) ∧
      second.phase = .returned (.ok ⟨some ['I', 'd', '1'], some 0x22, none, 2⟩) ∧
      third.phase = .returned (.ok ⟨some ['i', 'd'], some 0x22, none, 0⟩) ∧
      Transparent identEcu.ecuData state := by
  have run : ∃ (state : LookupState) (base first second third : LookupCall),
      Run (StableLookupStep identEcu) .initial lookupsAcrossVariants state ∧
      state.calls 0 = some base ∧ state.calls 1 = some first ∧ state.calls 2 = some second ∧
      state.calls 3 = some third ∧
      base.phase = .returned (.ok ⟨some ['i', 'd'], some 0x22, none, 0⟩) ∧
      first.phase = .returned (.ok ⟨some ['I', 'd', '1'], some 0x22, none, 2⟩) ∧
      second.phase = .returned (.ok ⟨some ['I', 'd', '1'], some 0x22, none, 2⟩) ∧
      third.phase = .returned (.ok ⟨some ['i', 'd'], some 0x22, none, 0⟩) :=
    ⟨_, _, _, _, _, Run.of_guarded_foldlM rfl, rfl, rfl, rfl, rfl, rfl, rfl, rfl, rfl⟩
  obtain ⟨state, base, first, second, third, stable, baseAt, firstAt, secondAt, thirdAt,
    baseFound, firstFound, secondFound, thirdFound⟩ := run
  exact ⟨state, base, first, second, third, stable, baseAt, firstAt, secondAt, thirdAt,
    baseFound, firstFound, secondFound, thirdFound, transparent_of_run stable⟩

def readAndWriteEcu : LookupContext where
  ecuData :=
    [{ isBaseVariant := true
       diagLayer := some ⟨none, some [⟨some ['i', 'd'], some 0x22, none, 0⟩,
         ⟨some ['i', 'd'], some 0x2E, none, 1⟩]⟩
       parentRefs := none }]
  actionAffixes := ⟨[], [], [], [], [], .atEnd⟩
  toLowercase := List.map Char.toLower

def readThenWrite : List LookupEvent :=
  [.lookup (identComm .data) none, .advance 0, .advance 0, .advance 0, .advance 0, .advance 0,
    .lookup (identComm .configurations) none, .advance 1, .advance 1, .advance 1]

/-- The lookup for the service that writes returns the one that reads. -/
theorem lookup_returns_foreign_service : ¬ ∀ context events state,
      Run (fun state event next => LookupState.step context state event = some next) .initial
        events state → Transparent context.ecuData state := by
  intro everyStateTransparent
  have run : ∃ (state : LookupState) (write : LookupCall),
      Run (fun state event next => LookupState.step readAndWriteEcu state event = some next)
        .initial readThenWrite state ∧
      state.calls 1 = some write ∧ write.seen = [⟨none, true⟩] ∧
      write.phase = .returned (.ok ⟨some ['i', 'd'], some 0x22, none, 0⟩) ∧
      readAndWriteEcu.ecuData.searchWithLocation write.query ⟨none, true⟩ =
        some (⟨some ['i', 'd'], some 0x2E, none, 1⟩, .variant 1) :=
    ⟨_, _, Run.of_foldlM rfl, rfl, rfl, rfl, rfl⟩
  obtain ⟨state, write, run, present, seen, returned, searched⟩ := run
  have transparent := everyStateTransparent _ _ _ run 1 write present
  simp only [LookupCall.Transparent, returned, seen, List.mem_singleton] at transparent
  obtain ⟨current, isCurrent, agrees⟩ := transparent
  rw [isCurrent, searched] at agrees
  cases agrees

end DiagnosticAdapter.Lookup
