import DiagnosticAdapter.Detection.GroupVerdict

/-!
# When the verdict does not depend on the order

Without an exact match every member is evaluated, whatever the order.  With one, the
members behind it are not, so that their connectivity is the one from before.
-/

namespace DiagnosticAdapter.Detection

open Function

open Codec (DiagServiceError)

variable {Response : Type} {serviceResponses : List (String × Response)}

namespace EcuManager

def evaluated (serviceResponses : List (String × Response)) (ecu : EcuManager Response) :
    EcuManager Response :=
  (ecu.detectVariant serviceResponses).2

def succeeds (serviceResponses : List (String × Response)) (ecu : EcuManager Response) : Bool :=
  (ecu.detectVariant serviceResponses).1.isOk && (ecu.evaluated serviceResponses).status.isOnlineAndDetected

def isExact (serviceResponses : List (String × Response)) (ecu : EcuManager Response) : Bool :=
  ecu.succeeds serviceResponses && !(ecu.evaluated serviceResponses).status.isFallback

def fallsBack (serviceResponses : List (String × Response)) (ecu : EcuManager Response) : Bool :=
  ecu.succeeds serviceResponses && (ecu.evaluated serviceResponses).status.isFallback

end EcuManager

namespace Ecus

def evaluateAll (serviceResponses : List (String × Response)) (members : List String)
    (ecus : Ecus Response) : Ecus Response := fun ecuName =>
  if ecuName ∈ members then (ecus ecuName).map (·.evaluated serviceResponses) else ecus ecuName

@[simp]
theorem evaluateAll_nil (ecus : Ecus Response) : ecus.evaluateAll serviceResponses [] = ecus := by
  funext ecuName
  simp [evaluateAll]

variable {ecuName : String}

theorem evaluateAll_cons {rest : List String} (fresh : ecuName ∉ rest) (ecus : Ecus Response) :
    ecus.evaluateAll serviceResponses (ecuName :: rest) = Ecus.evaluateAll serviceResponses rest
        (ecus.modify ecuName (·.evaluated serviceResponses)) := by
  funext other
  unfold evaluateAll modify
  by_cases same : other = ecuName
  · subst same
    simp [fresh]
  · simp [same]

theorem modify_of_none {ecus : Ecus Response}
    (absent : ecus ecuName = none) (change : EcuManager Response → EcuManager Response) :
    ecus.modify ecuName change = ecus := by
  unfold modify
  rw [absent, Option.map_none, ← absent, update_eq_self]

theorem modify_of_some {ecus : Ecus Response} {ecu : EcuManager Response}
    (present : ecus ecuName = some ecu) (change : EcuManager Response → EcuManager Response) :
    ecus.modify ecuName change = update ecus ecuName (some (change ecu)) := by
  rw [modify, present, Option.map_some]

theorem evaluateMembers_cons {ecus : Ecus Response}
    (notExact : ∀ ecu, ecus ecuName = some ecu → ecu.isExact serviceResponses = false)
    (firstFallback : Option String) (anyOnline : Bool) (rest : List String)
    (consistent : firstFallback.isSome = true → anyOnline = true) :
    ∃ nextFallback nextOnline,
      ecus.evaluateMembers serviceResponses firstFallback anyOnline (ecuName :: rest) =
        (ecus.modify ecuName (·.evaluated serviceResponses)).evaluateMembers serviceResponses
          nextFallback nextOnline rest ∧
      (nextFallback.isSome = true ↔ firstFallback.isSome = true ∨
        ∃ ecu, ecus ecuName = some ecu ∧ ecu.fallsBack serviceResponses = true) ∧
      (nextFallback.isSome = true → nextOnline = true) := by
  cases present : ecus ecuName with
  | none =>
    refine ⟨firstFallback, anyOnline, ?_, by simp, consistent⟩
    rw [modify_of_none present, evaluateMembers, present]
  | some ecu =>
    have goesOn := notExact ecu present
    rw [modify_of_some present, evaluateMembers, present]
    unfold EcuManager.isExact EcuManager.succeeds EcuManager.evaluated at goesOn
    simp only [Option.some.injEq, exists_eq_left', EcuManager.evaluated, EcuManager.fallsBack,
      EcuManager.succeeds]
    cases result : (ecu.detectVariant serviceResponses).1 with
    | error e =>
      refine ⟨firstFallback, _, rfl, by simp [Except.isOk, Except.toBool], ?_⟩
      intro isSome
      rw [consistent isSome, Bool.true_or]
    | ok done =>
      cases detected : (ecu.detectVariant serviceResponses).2.status.isOnlineAndDetected with
      | false =>
        refine ⟨firstFallback, _, rfl, by simp, ?_⟩
        intro isSome
        rw [consistent isSome, Bool.true_or]
      | true =>
        have fallback :
            (ecu.detectVariant serviceResponses).2.status.isFallback = true := by
          simpa [result, detected, Except.isOk, Except.toBool] using goesOn
        simp only [fallback]
        refine ⟨firstFallback.or (some ecuName), _, rfl, ?_, ?_⟩
        · simp [Except.isOk, Except.toBool]
        · intro _
          have online := detected
          simp only [EcuState.isOnlineAndDetected, Bool.and_eq_true] at online
          rw [online.1, Bool.or_true]

theorem evaluateMembers_append {before : List String} (distinct : before.Nodup)
    (rest : List String) {ecus : Ecus Response} (firstFallback : Option String)
    (anyOnline : Bool) (consistent : firstFallback.isSome = true → anyOnline = true)
    (notExact : ∀ member ∈ before, ∀ ecu, ecus member = some ecu →
      ecu.isExact serviceResponses = false) :
    ∃ nextFallback nextOnline,
      ecus.evaluateMembers serviceResponses firstFallback anyOnline (before ++ rest) =
        (ecus.evaluateAll serviceResponses before).evaluateMembers serviceResponses
          nextFallback nextOnline rest ∧
      (nextFallback.isSome = true ↔ firstFallback.isSome = true ∨
        ∃ member ∈ before, ∃ ecu, ecus member = some ecu ∧ ecu.fallsBack serviceResponses = true) ∧
      (nextFallback.isSome = true → nextOnline = true) := by
  induction before generalizing ecus firstFallback anyOnline with
  | nil => exact ⟨firstFallback, anyOnline, by simp, by simp, consistent⟩
  | cons ecuName before ih =>
    obtain ⟨fresh, distinct⟩ := List.nodup_cons.mp distinct
    obtain ⟨firstNext, firstOnline, passed, firstFallbackIff, firstConsistent⟩ :=
      evaluateMembers_cons (notExact ecuName List.mem_cons_self) firstFallback anyOnline
        (before ++ rest) consistent
    have untouched : ∀ member ∈ before,
        ecus.modify ecuName (·.evaluated serviceResponses) member = ecus member := by
      intro member inBefore
      apply update_of_ne
      intro same
      exact fresh (same ▸ inBefore)
    obtain ⟨next, online, ended, fallbackIff, nextConsistent⟩ :=
      @ih distinct (ecus.modify ecuName (·.evaluated serviceResponses))
        firstNext firstOnline firstConsistent (by
          intro member inBefore ecu present
          rw [untouched member inBefore] at present
          exact notExact member (List.mem_cons_of_mem _ inBefore) ecu present)
    refine ⟨next, online, ?_, ?_, nextConsistent⟩
    · rw [List.cons_append, passed, ended, evaluateAll_cons fresh]
    · rw [fallbackIff, firstFallbackIff, or_assoc]
      apply or_congr_right
      constructor
      · intro found
        rcases found with head | ⟨member, inBefore, ecu, present, falls⟩
        · exact ⟨ecuName, List.mem_cons_self, head⟩
        · rw [untouched member inBefore] at present
          exact ⟨member, List.mem_cons_of_mem _ inBefore, ecu, present, falls⟩
      · intro ⟨member, inAll, ecu, present, falls⟩
        rcases List.mem_cons.mp inAll with same | inBefore
        · exact .inl ⟨ecu, same ▸ present, falls⟩
        · exact .inr ⟨member, inBefore, ecu, (untouched member inBefore).trans present, falls⟩

variable {members : List String}

theorem foldl_modify (distinct : members.Nodup)
    (change : EcuManager Response → EcuManager Response) (ecus : Ecus Response)
    (ecuName : String) :
    members.foldl (fun ecus member => ecus.modify member change) ecus ecuName =
      if ecuName ∈ members then (ecus ecuName).map change else ecus ecuName := by
  induction members generalizing ecus with
  | nil => simp
  | cons member rest ih =>
    obtain ⟨fresh, distinct⟩ := List.nodup_cons.mp distinct
    rw [List.foldl_cons, ih distinct]
    by_cases same : ecuName = member
    · subst same
      simp [fresh, modify]
    · simp [same, modify]

theorem foldl_modify_except (distinct : members.Nodup)
    (chosen : String) (change : EcuManager Response → EcuManager Response)
    (ecus : Ecus Response) (ecuName : String) :
    members.foldl (fun ecus member =>
        if member = chosen then ecus else ecus.modify member change) ecus ecuName =
      if ecuName ∈ members ∧ ecuName ≠ chosen then (ecus ecuName).map change
      else ecus ecuName := by
  induction members generalizing ecus with
  | nil => simp
  | cons member rest ih =>
    obtain ⟨fresh, distinct⟩ := List.nodup_cons.mp distinct
    rw [List.foldl_cons, ih distinct]
    by_cases skipped : member = chosen
    · rw [if_pos skipped]
      by_cases same : ecuName = member
      · simp [same, skipped]
      · simp [same]
    · rw [if_neg skipped]
      by_cases same : ecuName = member
      · subst same
        simp [fresh, modify, skipped]
      · simp [same, modify]

/-- The verdict without an exact match: all members are evaluated, and if one fell back
they all end up without a variant. -/
theorem groupVerdict_of_noExact (distinct : members.Nodup) {ecus : Ecus Response}
    (notExact : ∀ member ∈ members, ∀ ecu, ecus member = some ecu →
      ecu.isExact serviceResponses = false) (ecuName : String) :
    ecus.groupVerdict members serviceResponses ecuName =
      if ecuName ∈ members ∧ ∃ member ∈ members, ∃ ecu, ecus member = some ecu ∧
          ecu.fallsBack serviceResponses = true then
        (ecus ecuName).map fun ecu => (ecu.evaluated serviceResponses).markAsNoVariantDetected
      else
        ecus.evaluateAll serviceResponses members ecuName := by
  obtain ⟨fallback, online, ended, fallbackIff, consistent⟩ :=
    evaluateMembers_append distinct [] none false (by simp) notExact
  rw [List.append_nil] at ended
  unfold groupVerdict evaluateDuplicateGroup
  rw [ended]
  simp only [Option.isSome_none, Bool.false_eq_true, false_or] at fallbackIff
  cases fallback with
  | none =>
    have noFallback : ¬ (ecuName ∈ members ∧ ∃ member ∈ members, ∃ ecu,
        ecus member = some ecu ∧ ecu.fallsBack serviceResponses = true) := by
      intro both
      exact absurd (fallbackIff.mpr both.2) (by simp)
    rw [if_neg noFallback]
    cases online <;> rfl
  | some first =>
    have isOnline : online = true := consistent rfl
    rw [isOnline]
    have found := fallbackIff.mp rfl
    simp only [evaluateMembers, applyGroupResult]
    rw [foldl_modify distinct]
    by_cases member : ecuName ∈ members
    · rw [if_pos member, if_pos ⟨member, found⟩, evaluateAll, if_pos member, Option.map_map]
      rfl
    · rw [if_neg member, if_neg (fun both => member both.1)]

theorem groupVerdict_of_exact {before after : List String} {chosen : String}
    (distinct : (before ++ chosen :: after).Nodup) {ecus : Ecus Response}
    {ecu : EcuManager Response} (present : ecus chosen = some ecu)
    (exact : ecu.isExact serviceResponses = true)
    (notExact : ∀ member ∈ before, ∀ ecu, ecus member = some ecu →
      ecu.isExact serviceResponses = false) (ecuName : String) :
    ecus.groupVerdict (before ++ chosen :: after) serviceResponses ecuName =
      if ecuName = chosen then some (ecu.evaluated serviceResponses)
      else if ecuName ∈ before then
        (ecus ecuName).map fun ecu => (ecu.evaluated serviceResponses).markAsDuplicate
      else if ecuName ∈ after then (ecus ecuName).map (·.markAsDuplicate)
      else ecus ecuName := by
  have distinctBefore : before.Nodup := distinct.of_append_left
  have chosenNotBefore : chosen ∉ before := by
    intro inBefore
    exact List.disjoint_of_nodup_append distinct inBefore List.mem_cons_self
  obtain ⟨fallback, online, ended, -, -⟩ :=
    evaluateMembers_append distinctBefore (chosen :: after) none false (by simp) notExact
  have presentStill : ecus.evaluateAll serviceResponses before chosen = some ecu := by
    rw [evaluateAll, if_neg chosenNotBefore, present]
  have stops : (ecus.evaluateAll serviceResponses before).evaluateMembers serviceResponses
      fallback online (chosen :: after) =
        (.exactMatch chosen, update (ecus.evaluateAll serviceResponses before) chosen
          (some (ecu.evaluated serviceResponses))) := by
    unfold EcuManager.isExact EcuManager.succeeds EcuManager.evaluated at exact
    simp only [Bool.and_eq_true, Bool.not_eq_true'] at exact
    obtain ⟨⟨isOk, detected⟩, specific⟩ := exact
    rw [evaluateMembers, presentStill]
    cases result : (ecu.detectVariant serviceResponses).1 with
    | error e =>
      rw [result] at isOk
      cases isOk
    | ok done =>
      simp only [result, detected, specific, EcuManager.evaluated]
      rfl
  unfold groupVerdict evaluateDuplicateGroup
  rw [ended, stops]
  simp only [applyGroupResult]
  rw [foldl_modify_except distinct]
  by_cases isChosen : ecuName = chosen
  · simp [isChosen]
  · have inMembers : ecuName ∈ before ++ chosen :: after ↔ ecuName ∈ before ∨ ecuName ∈ after := by
      simp [isChosen]
    rw [update_of_ne isChosen, if_neg isChosen, evaluateAll]
    simp only [inMembers]
    by_cases inBefore : ecuName ∈ before
    · simp only [inBefore, true_or, isChosen, ne_eq, not_false_eq_true, and_self, if_true,
        Option.map_map]
      rfl
    · by_cases inAfter : ecuName ∈ after
      · simp [inBefore, inAfter, isChosen]
      · simp [inBefore, inAfter]

end Ecus

def IsOrder (group : Finset String) (order : List String) : Prop :=
  order.Nodup ∧ ∀ ecuName, ecuName ∈ order ↔ ecuName ∈ group

theorem exists_order_cons {group : Finset String} {first : String} (member : first ∈ group) :
    ∃ rest, IsOrder group (first :: rest) := by
  refine ⟨(group.erase first).toList, ?_, ?_⟩
  · simp [Finset.nodup_toList]
  · intro ecuName
    by_cases same : ecuName = first
    · simp [same, member]
    · simp [same]

theorem exists_order_cons_cons {group : Finset String} {first second : String}
    (firstMember : first ∈ group) (secondMember : second ∈ group) (ne : first ≠ second) :
    ∃ rest, IsOrder group (first :: second :: rest) := by
  have inErased : second ∈ group.erase first := by simp [ne.symm, secondMember]
  obtain ⟨rest, distinct, members⟩ := exists_order_cons inErased
  refine ⟨rest, List.nodup_cons.mpr ⟨?_, distinct⟩, ?_⟩
  · intro inside
    exact absurd ((members first).mp inside) (by simp)
  · intro ecuName
    rw [List.mem_cons, members]
    by_cases same : ecuName = first
    · simp [same, firstMember]
    · simp [same]

def AtMostOneDetected (group : Finset String) (ecus : Ecus Response) : Prop :=
  ∀ first second firstEcu secondEcu, first ∈ group → second ∈ group →
    ecus first = some firstEcu → ecus second = some secondEcu →
    firstEcu.status.variantState.isDetected = true →
    secondEcu.status.variantState.isDetected = true → first = second

/-- The verdict names at most one member, and does not depend on the order. -/
structure Settled (group : Finset String) (serviceResponses : List (String × Response))
    (ecus : Ecus Response) : Prop where
  atMostOne : ∀ order, IsOrder group order →
    AtMostOneDetected group (ecus.groupVerdict order serviceResponses)
  orderFree : ∀ first second, IsOrder group first → IsOrder group second →
    ∀ member ∈ group, ecus.groupVerdict first serviceResponses member =
      ecus.groupVerdict second serviceResponses member

/-- The outcomes of the members' own detections for which that is so. -/
structure OutcomesAgree (group : Finset String) (serviceResponses : List (String × Response))
    (ecus : Ecus Response) : Prop where
  onlyExact : ∀ first second firstEcu secondEcu, first ∈ group → second ∈ group →
    ecus first = some firstEcu → ecus second = some secondEcu →
    firstEcu.isExact serviceResponses = true → secondEcu.isExact serviceResponses = true →
    first = second
  /-- Beside an exact match, evaluating a member leaves its connectivity as it is. -/
  connectivity : ∀ chosen ecu, chosen ∈ group → ecus chosen = some ecu →
    ecu.isExact serviceResponses = true → ∀ member other, member ∈ group → member ≠ chosen →
      ecus member = some other →
      (other.evaluated serviceResponses).status.connectivity = other.status.connectivity
  /-- Without a match, at most one member is left detected. -/
  unmatched : (∀ member ecu, member ∈ group → ecus member = some ecu →
      ecu.isExact serviceResponses = false ∧ ecu.fallsBack serviceResponses = false) →
    ∀ first second firstEcu secondEcu, first ∈ group → second ∈ group →
      ecus first = some firstEcu → ecus second = some secondEcu →
      (firstEcu.evaluated serviceResponses).status.variantState.isDetected = true →
      (secondEcu.evaluated serviceResponses).status.variantState.isDetected = true →
      first = second

namespace EcuManager

theorem exists_evaluated_eq (serviceResponses : List (String × Response))
    (ecu : EcuManager Response) :
    ∃ status isLoaded, ecu.evaluated serviceResponses =
      { ecu with status := status, isLoaded := isLoaded } := by
  have loaded : ∀ ecu : EcuManager Response, ∃ status isLoaded,
      (ecu.detectLoaded serviceResponses).2 =
        { ecu with status := status, isLoaded := isLoaded } := by
    intro ecu
    unfold detectLoaded
    split
    · exact ⟨_, _, rfl⟩
    · split
      · exact ⟨_, _, rfl⟩
      · split
        · split <;> exact ⟨_, _, rfl⟩
        · exact ⟨_, _, rfl⟩
  unfold evaluated detectVariant
  split
  · exact loaded ecu
  · split
    · exact ⟨_, _, rfl⟩
    · obtain ⟨status, isLoaded, result⟩ := loaded { ecu with isLoaded := true }
      exact ⟨status, isLoaded, result⟩

theorem markAsDuplicate_evaluated {ecu : EcuManager Response}
    (same : (ecu.evaluated serviceResponses).status.connectivity = ecu.status.connectivity) :
    (ecu.evaluated serviceResponses).markAsDuplicate = ecu.markAsDuplicate := by
  obtain ⟨status, isLoaded, evaluated⟩ := exists_evaluated_eq serviceResponses ecu
  rw [evaluated] at same ⊢
  simp only at same
  simp only [markAsDuplicate, clearVariantAndUnload, same]

theorem isDetected_of_isExact {ecu : EcuManager Response}
    (exact : ecu.isExact serviceResponses = true) :
    (ecu.evaluated serviceResponses).status.variantState.isDetected = true := by
  simp only [isExact, succeeds, EcuState.isOnlineAndDetected, Bool.and_eq_true] at exact
  exact exact.1.2.2

end EcuManager

section

variable {group : Finset String} {ecus : Ecus Response}

theorem OutcomesAgree.groupVerdict_exact (agree : OutcomesAgree group serviceResponses ecus)
    {chosen : String} {ecu : EcuManager Response} (chosenMember : chosen ∈ group)
    (present : ecus chosen = some ecu) (exact : ecu.isExact serviceResponses = true)
    {order : List String} (isOrder : IsOrder group order) {member : String}
    (inGroup : member ∈ group) :
    ecus.groupVerdict order serviceResponses member =
      if member = chosen then some (ecu.evaluated serviceResponses)
      else (ecus member).map (·.markAsDuplicate) := by
  obtain ⟨distinct, members⟩ := isOrder
  obtain ⟨before, after, split⟩ := List.append_of_mem ((members chosen).mpr chosenMember)
  subst split
  rw [Ecus.groupVerdict_of_exact distinct present exact]
  · by_cases isChosen : member = chosen
    · rw [if_pos isChosen, if_pos isChosen]
    · rw [if_neg isChosen, if_neg isChosen]
      have place : member ∈ before ∨ member ∈ after := by
        simpa [isChosen] using (members member).mpr inGroup
      by_cases inBefore : member ∈ before
      · rw [if_pos inBefore]
        cases found : ecus member with
        | none => rfl
        | some other =>
          have same := agree.connectivity chosen ecu chosenMember present exact member other
            inGroup isChosen found
          rw [Option.map_some, Option.map_some, EcuManager.markAsDuplicate_evaluated same]
      · rw [if_neg inBefore, if_pos (place.resolve_left inBefore)]
  · intro other inBefore otherEcu otherPresent
    by_contra alsoExact
    have otherMember : other ∈ group :=
      (members other).mp (List.mem_append_left _ inBefore)
    have same := agree.onlyExact other chosen otherEcu ecu otherMember chosenMember otherPresent
      present (Bool.eq_true_of_not_eq_false alsoExact) exact
    exact List.disjoint_of_nodup_append distinct inBefore (same ▸ List.mem_cons_self)

theorem groupVerdict_noExact (notExact : ∀ member ecu, member ∈ group → ecus member = some ecu →
      ecu.isExact serviceResponses = false)
    {order : List String} (isOrder : IsOrder group order) {member : String}
    (inGroup : member ∈ group) :
    ((∃ other ecu, other ∈ group ∧ ecus other = some ecu ∧ ecu.fallsBack serviceResponses = true) →
      ecus.groupVerdict order serviceResponses member = (ecus member).map fun ecu =>
        (ecu.evaluated serviceResponses).markAsNoVariantDetected) ∧
    ((¬ ∃ other ecu, other ∈ group ∧ ecus other = some ecu ∧
        ecu.fallsBack serviceResponses = true) →
      ecus.groupVerdict order serviceResponses member =
        (ecus member).map (·.evaluated serviceResponses)) := by
  obtain ⟨distinct, members⟩ := isOrder
  have inOrder := (members member).mpr inGroup
  rw [Ecus.groupVerdict_of_noExact distinct (by
    intro other isMember ecu present
    exact notExact other ecu ((members other).mp isMember) present)]
  constructor
  · intro ⟨other, ecu, isMember, present, falls⟩
    rw [if_pos ⟨inOrder, other, (members other).mpr isMember, ecu, present, falls⟩]
  · intro noFallback
    rw [if_neg, Ecus.evaluateAll, if_pos inOrder]
    intro both
    obtain ⟨-, other, isMember, ecu, present, falls⟩ := both
    exact noFallback ⟨other, ecu, (members other).mp isMember, present, falls⟩

theorem Settled.of_verdict {verdict : Ecus Response}
    (verdicts : ∀ order, IsOrder group order → ∀ member ∈ group,
      ecus.groupVerdict order serviceResponses member = verdict member)
    (atMostOne : AtMostOneDetected group verdict) : Settled group serviceResponses ecus := by
  constructor
  · intro order isOrder first second firstEcu secondEcu firstMember secondMember firstPresent
      secondPresent
    rw [verdicts order isOrder first firstMember] at firstPresent
    rw [verdicts order isOrder second secondMember] at secondPresent
    exact atMostOne first second firstEcu secondEcu firstMember secondMember firstPresent
      secondPresent
  · intro first second isFirst isSecond member inGroup
    rw [verdicts first isFirst member inGroup, verdicts second isSecond member inGroup]

theorem OutcomesAgree.settled (agree : OutcomesAgree group serviceResponses ecus) :
    Settled group serviceResponses ecus := by
  by_cases found : ∃ chosen ecu, chosen ∈ group ∧ ecus chosen = some ecu ∧
      ecu.isExact serviceResponses = true
  · obtain ⟨chosen, ecu, chosenMember, present, exact⟩ := found
    apply Settled.of_verdict fun order isOrder member inGroup =>
      agree.groupVerdict_exact chosenMember present exact isOrder inGroup
    intro first second firstEcu secondEcu _ _ firstPresent secondPresent firstDetected
      secondDetected
    have isChosen : ∀ member state, (if member = chosen then some (ecu.evaluated serviceResponses)
        else (ecus member).map (·.markAsDuplicate)) = some state →
        state.status.variantState.isDetected = true → member = chosen := by
      intro member state after detected
      by_contra ne
      rw [if_neg ne] at after
      obtain ⟨other, -, marked⟩ := Option.map_eq_some_iff.mp after
      rw [← marked] at detected
      cases detected
    exact (isChosen first firstEcu firstPresent firstDetected).trans
      (isChosen second secondEcu secondPresent secondDetected).symm
  · have notExact : ∀ member ecu, member ∈ group → ecus member = some ecu →
        ecu.isExact serviceResponses = false := by
      intro member ecu inGroup present
      by_contra exact
      exact found ⟨member, ecu, inGroup, present, Bool.eq_true_of_not_eq_false exact⟩
    by_cases fallback : ∃ other ecu, other ∈ group ∧ ecus other = some ecu ∧
        ecu.fallsBack serviceResponses = true
    · apply Settled.of_verdict fun order isOrder member inGroup =>
        (groupVerdict_noExact notExact isOrder inGroup).1 fallback
      intro first second firstEcu secondEcu _ _ firstPresent _ firstDetected
      obtain ⟨other, -, marked⟩ := Option.map_eq_some_iff.mp firstPresent
      rw [← marked] at firstDetected
      cases firstDetected
    · apply Settled.of_verdict fun order isOrder member inGroup =>
        (groupVerdict_noExact notExact isOrder inGroup).2 fallback
      intro first second firstEcu secondEcu firstMember secondMember firstPresent secondPresent
        firstDetected secondDetected
      obtain ⟨firstBefore, firstFound, firstEvaluated⟩ := Option.map_eq_some_iff.mp firstPresent
      obtain ⟨secondBefore, secondFound, secondEvaluated⟩ := Option.map_eq_some_iff.mp secondPresent
      apply agree.unmatched _ first second firstBefore secondBefore firstMember secondMember
        firstFound secondFound
      · rw [firstEvaluated]
        exact firstDetected
      · rw [secondEvaluated]
        exact secondDetected
      · intro member ecu inGroup present
        refine ⟨notExact member ecu inGroup present, ?_⟩
        by_contra falls
        exact fallback ⟨member, ecu, inGroup, present, Bool.eq_true_of_not_eq_false falls⟩

theorem Settled.onlyExact (settled : Settled group serviceResponses ecus)
    {first second : String} {firstEcu secondEcu : EcuManager Response}
    (firstMember : first ∈ group) (secondMember : second ∈ group)
    (firstPresent : ecus first = some firstEcu) (secondPresent : ecus second = some secondEcu)
    (firstExact : firstEcu.isExact serviceResponses = true)
    (secondExact : secondEcu.isExact serviceResponses = true) : first = second := by
  by_contra ne
  obtain ⟨firstRest, firstOrder⟩ := exists_order_cons firstMember
  obtain ⟨secondRest, secondOrder⟩ := exists_order_cons secondMember
  have chosen := Ecus.groupVerdict_of_exact
    (show ([] ++ first :: firstRest).Nodup from firstOrder.1) firstPresent firstExact
    (by simp) first
  have marked := Ecus.groupVerdict_of_exact
    (show ([] ++ second :: secondRest).Nodup from secondOrder.1) secondPresent secondExact
    (by simp) first
  have behind : first ∈ secondRest := by
    simpa [ne] using (secondOrder.2 first).mpr firstMember
  rw [if_pos rfl] at chosen
  rw [if_neg ne, if_neg (by simp), if_pos behind, firstPresent] at marked
  have same := settled.orderFree _ _ firstOrder secondOrder first firstMember
  rw [show (first :: firstRest) = [] ++ first :: firstRest from rfl, chosen,
    show (second :: secondRest) = [] ++ second :: secondRest from rfl, marked] at same
  have detected := EcuManager.isDetected_of_isExact firstExact
  rw [Option.some.inj same] at detected
  cases detected

theorem Settled.outcomesAgree (settled : Settled group serviceResponses ecus) :
    OutcomesAgree group serviceResponses ecus := by
  constructor
  · intro first second firstEcu secondEcu firstMember secondMember firstPresent secondPresent
      firstExact secondExact
    exact settled.onlyExact firstMember secondMember firstPresent secondPresent firstExact
      secondExact
  · intro chosen ecu chosenMember present exact member other inGroup ne otherPresent
    obtain ⟨rest, order⟩ := exists_order_cons chosenMember
    obtain ⟨otherRest, otherOrder⟩ := exists_order_cons_cons inGroup chosenMember ne
    have notExact : other.isExact serviceResponses = false := by
      by_contra alsoExact
      exact ne (settled.onlyExact inGroup chosenMember otherPresent present
        (Bool.eq_true_of_not_eq_false alsoExact) exact)
    have unevaluated := Ecus.groupVerdict_of_exact
      (show ([] ++ chosen :: rest).Nodup from order.1) present exact (by simp)
      member
    have evaluated := Ecus.groupVerdict_of_exact
      (show ([member] ++ chosen :: otherRest).Nodup from otherOrder.1) present exact
      (by
        intro found isMember foundEcu foundPresent
        rw [List.mem_singleton.mp isMember, otherPresent] at foundPresent
        cases foundPresent
        exact notExact) member
    have behind : member ∈ rest := by
      simpa [ne] using (order.2 member).mpr inGroup
    rw [if_neg ne, if_neg (by simp), if_pos behind, otherPresent] at unevaluated
    rw [if_neg ne, if_pos (by simp), otherPresent] at evaluated
    have same := settled.orderFree _ _ otherOrder order member inGroup
    rw [show (chosen :: rest) = [] ++ chosen :: rest from rfl, unevaluated,
      show (member :: chosen :: otherRest) = [member] ++ chosen :: otherRest from rfl,
      evaluated] at same
    have marked := congrArg (·.status.connectivity) (Option.some.inj same)
    exact marked
  · intro unmatched first second firstEcu secondEcu firstMember secondMember firstPresent
      secondPresent firstDetected secondDetected
    obtain ⟨rest, order⟩ := exists_order_cons firstMember
    have notExact : ∀ member ecu, member ∈ group → ecus member = some ecu →
        ecu.isExact serviceResponses = false := by
      intro member ecu inGroup present
      exact (unmatched member ecu inGroup present).1
    have noFallback : ¬ ∃ other ecu, other ∈ group ∧ ecus other = some ecu ∧
        ecu.fallsBack serviceResponses = true := by
      intro ⟨other, ecu, inGroup, present, falls⟩
      rw [(unmatched other ecu inGroup present).2] at falls
      cases falls
    have verdict {member : String} (inGroup : member ∈ group) :=
      (groupVerdict_noExact notExact order inGroup).2 noFallback
    apply settled.atMostOne _ order first second _ _ firstMember secondMember
    · rw [verdict firstMember, firstPresent, Option.map_some]
    · rw [verdict secondMember, secondPresent, Option.map_some]
    · exact firstDetected
    · exact secondDetected

end

/-- Exactly when a group verdict names at most one member in every order, and the same
states. -/
theorem settled_iff_outcomesAgree (group : Finset String)
    (serviceResponses : List (String × Response)) (ecus : Ecus Response) :
    Settled group serviceResponses ecus ↔ OutcomesAgree group serviceResponses ecus :=
  ⟨Settled.outcomesAgree, OutcomesAgree.settled⟩

/-- A loaded ECU whose database answers the responses with `outcome` and knows the
variant `MyVariant`. -/
def candidate (status : EcuState) (outcome : Except DiagServiceError Variant)
    (setDefaultStates : Except DiagServiceError Unit) : EcuManager Unit where
  status := status
  isLoaded := true
  load := .ok ()
  evaluateVariant := fun _ => outcome
  fallbackToBaseVariant := false
  baseVariant := .error (.invalidDatabase "no base variant")
  variants := some [some "MyVariant"]
  setDefaultStates := setDefaultStates

/-- Two candidates for one node, neither of them tested. -/
def pair (first second : EcuManager Unit) : Ecus Unit := fun ecuName =>
  if ecuName = "engine" then some first else if ecuName = "engine2" then some second else none

/-- Both match exactly, and the first in the order wins; one matches, and whether the
other gets online depends on the order; both match without default states, and both
stay detected. -/
theorem verdict_depends_on_order :
    (¬ ∀ (group : Finset String) (serviceResponses : List (String × Unit)) (ecus : Ecus Unit)
        (first second : List String), serviceResponses ≠ [] → IsOrder group first →
      IsOrder group second → ∀ member ∈ group,
        (ecus.groupVerdict first serviceResponses member).map (·.status.variantState) =
          (ecus.groupVerdict second serviceResponses member).map (·.status.variantState)) ∧
    (¬ ∀ (group : Finset String) (serviceResponses : List (String × Unit)) (ecus : Ecus Unit)
        (first second : List String), serviceResponses ≠ [] → IsOrder group first →
      IsOrder group second → ∀ member ∈ group,
        (ecus.groupVerdict first serviceResponses member).map (·.status.connectivity) =
          (ecus.groupVerdict second serviceResponses member).map (·.status.connectivity)) ∧
    ¬ ∀ (group : Finset String) (serviceResponses : List (String × Unit)) (ecus : Ecus Unit)
        (order : List String), serviceResponses ≠ [] → IsOrder group order →
      AtMostOneDetected group (ecus.groupVerdict order serviceResponses) := by
  have forwards : IsOrder {"engine", "engine2"} ["engine", "engine2"] := by
    refine ⟨by simp, ?_⟩
    intro ecuName
    simp
  have backwards : IsOrder {"engine", "engine2"} ["engine2", "engine"] := by
    refine ⟨by simp, ?_⟩
    intro ecuName
    simp [or_comm]
  refine ⟨?_, ?_, ?_⟩
  · intro sameVariant
    have same := sameVariant {"engine", "engine2"} [("ident", ())]
      (pair (candidate .default (.ok ⟨"MyVariant", false⟩) (.ok ()))
        (candidate .default (.ok ⟨"MyVariant", false⟩) (.ok ())))
      _ _ (by simp) forwards backwards "engine" (by simp)
    exact absurd same (by decide)
  · intro sameConnectivity
    have same := sameConnectivity {"engine", "engine2"} [("ident", ())]
      (pair (candidate .default (.ok ⟨"MyVariant", false⟩) (.ok ()))
        (candidate .default (.error (.notFound "no variant")) (.ok ())))
      _ _ (by simp) forwards backwards "engine2" (by simp)
    exact absurd same (by decide)
  · intro atMostOne
    have same := atMostOne {"engine", "engine2"} [("ident", ())]
      (pair (candidate .default (.ok ⟨"MyVariant", false⟩) (.error (.notFound "no chart")))
        (candidate .default (.ok ⟨"MyVariant", false⟩) (.error (.notFound "no chart"))))
      _ (by simp) forwards "engine" "engine2" _ _ (by simp) (by simp) rfl rfl rfl rfl
    exact absurd same (by decide)

end DiagnosticAdapter.Detection
