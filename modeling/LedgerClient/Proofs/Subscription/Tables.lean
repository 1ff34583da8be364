import LedgerClient.Proofs.Subscription.IdTable
import LedgerClient.Subscription.Session

/-! # The tables of a session

What is known under a request id is a subscription with that request id, and what is known
under a server's id is a live subscription with that server's id
(`LedgerClient.Session.Consistent`). Each of the few ways in which the tables change keeps
this, and so there are never more acknowledged subscriptions than live ones
(`LedgerClient.Session.Consistent.size_le`).
-/

namespace LedgerClient.Session

variable {α : Type} {session : Session α} {place other : Nat} {requestId serverId : UInt64}
  {subscription : Subscription α} {change : Subscription α → Subscription α}

/-- The subscription at a place is live as long as it is known by its request. -/
def Live (session : Session α) (place : Nat) : Prop :=
  ∃ requestId, session.byRequest.find? requestId = some place

/-- The subscription at a place is listed as long as notifications reach it. -/
def Listed (session : Session α) (place : Nat) : Prop :=
  ∃ serverId, session.bySubscription.find? serverId = some place

/-- The tables agree with each other and with the subscriptions. -/
structure Consistent (session : Session α) : Prop where
  distinctRequests : session.byRequest.Distinct
  distinctSubscriptions : session.bySubscription.Distinct
  /-- What is known by a request has that request. -/
  requested : ∀ requestId place, session.byRequest.find? requestId = some place →
    ∃ subscription, session.subscriptions[place]? = some subscription ∧
      subscription.requestId = requestId
  /-- What is known by a server's id has that id, and is live. -/
  acknowledged : ∀ serverId place, session.bySubscription.find? serverId = some place →
    ∃ subscription, session.subscriptions[place]? = some subscription ∧
      subscription.serverId = some serverId ∧
        session.byRequest.find? subscription.requestId = some place

/-- A session begins with consistent tables. -/
theorem consistent_start (ids : IdSource) : (start ids : Session α).Consistent where
  distinctRequests := IdTable.distinct_empty
  distinctSubscriptions := IdTable.distinct_empty
  requested := by
    rintro _ _ ⟨⟩
  acknowledged := by
    rintro _ _ ⟨⟩

namespace Consistent

variable (consistent : session.Consistent)

include consistent

/-- A subscription is known by its own request. -/
theorem requestId_eq (found : session.subscriptions[place]? = some subscription)
    (known : session.byRequest.find? requestId = some place) :
    subscription.requestId = requestId := by
  obtain ⟨same, present, requested⟩ := consistent.requested requestId place known
  rw [found] at present
  cases present
  exact requested

/-- A subscription is known by its own id of the server. -/
theorem serverId_eq (found : session.subscriptions[place]? = some subscription)
    (known : session.bySubscription.find? serverId = some place) :
    subscription.serverId = some serverId := by
  obtain ⟨same, present, named, _⟩ := consistent.acknowledged serverId place known
  rw [found] at present
  cases present
  exact named

/-- A subscription is live exactly if it is known by its request. -/
theorem live_iff (found : session.subscriptions[place]? = some subscription) :
    session.Live place ↔ session.byRequest.find? subscription.requestId = some place := by
  constructor
  · rintro ⟨requestId, known⟩
    rw [consistent.requestId_eq found known]
    exact known
  · intro known
    exact ⟨_, known⟩

/-- A subscription is listed exactly if it is known by its id of the server. -/
theorem listed_iff (found : session.subscriptions[place]? = some subscription) :
    session.Listed place ↔ ∃ serverId, subscription.serverId = some serverId ∧
      session.bySubscription.find? serverId = some place := by
  constructor
  · rintro ⟨serverId, known⟩
    exact ⟨serverId, consistent.serverId_eq found known, known⟩
  · rintro ⟨serverId, _, known⟩
    exact ⟨serverId, known⟩

/-- What is listed is live. -/
theorem live_of_listed (listed : session.Listed place) : session.Live place := by
  obtain ⟨serverId, known⟩ := listed
  obtain ⟨subscription, _, _, live⟩ := consistent.acknowledged serverId place known
  exact ⟨_, live⟩

/-- **There are no more acknowledged subscriptions than live ones.** -/
theorem size_le : session.bySubscription.size ≤ session.byRequest.size := by
  refine IdTable.size_le_of_covers consistent.distinctSubscriptions consistent.distinctRequests
    ?once ?covers
  case once =>
    intro first second place known again
    obtain ⟨subscription, found, named, _⟩ := consistent.acknowledged first place known
    have alsoNamed := consistent.serverId_eq found again
    exact Option.some.inj (named.symm.trans alsoNamed)
  case covers =>
    intro serverId place known
    exact consistent.live_of_listed ⟨serverId, known⟩

end Consistent

/-! ### A change at one place -/

/-- A change at a place changes the subscription there. -/
theorem getElem?_update_self (found : session.subscriptions[place]? = some subscription) :
    (session.update place change).subscriptions[place]? = some (change subscription) := by
  refine (List.getElem?_modify_eq _ _ _).trans ?_
  rw [found]
  rfl

/-- A change at a place leaves the other subscriptions as they are. -/
theorem getElem?_update_of_ne (elsewhere : other ≠ place) :
    (session.update place change).subscriptions[other]? = session.subscriptions[other]? :=
  List.getElem?_modify_ne _ _ elsewhere.symm

/-- A session that goes on with other ids and remembers other requests to cancel. -/
def remember (ids : IdSource) (cancelled : IdTable String) (session : Session α) : Session α :=
  { session with ids, cancelled }

/-- Remembering other requests keeps the tables consistent. -/
theorem Consistent.remember (consistent : session.Consistent) (ids : IdSource)
    (cancelled : IdTable String) : (session.remember ids cancelled).Consistent :=
  ⟨consistent.distinctRequests, consistent.distinctSubscriptions, consistent.requested,
    consistent.acknowledged⟩

/-- A change that keeps the ids of a subscription keeps the tables consistent. -/
theorem Consistent.update (consistent : session.Consistent)
    (keeps : ∀ subscription, session.subscriptions[place]? = some subscription →
      (change subscription).requestId = subscription.requestId ∧
        (change subscription).serverId = subscription.serverId) :
    (session.update place change).Consistent := by
  have kept : ∀ (other : Nat) (subscription : Subscription α),
      session.subscriptions[other]? = some subscription →
      ∃ after, (session.update place change).subscriptions[other]? = some after ∧
        after.requestId = subscription.requestId ∧ after.serverId = subscription.serverId := by
    intro other subscription found
    by_cases same : other = place
    · subst same
      exact ⟨_, getElem?_update_self found, keeps subscription found⟩
    · exact ⟨subscription, (getElem?_update_of_ne same).trans found, rfl, rfl⟩
  refine ⟨consistent.distinctRequests, consistent.distinctSubscriptions, ?_, ?_⟩
  · intro requestId other known
    obtain ⟨subscription, found, rfl⟩ := consistent.requested requestId other known
    obtain ⟨after, present, sameRequest, _⟩ := kept other subscription found
    exact ⟨after, present, sameRequest⟩
  · intro serverId other known
    obtain ⟨subscription, found, named, live⟩ := consistent.acknowledged serverId other known
    obtain ⟨after, present, sameRequest, sameServer⟩ := kept other subscription found
    exact ⟨after, present, sameServer.trans named, sameRequest ▸ live⟩

/-! ### A subscription leaves -/

/-- A session that does not know a request any more, nor the server's id for it. -/
def without (requestId : UInt64) (serverId : Option UInt64) (session : Session α) : Session α :=
  { session with
    byRequest := session.byRequest.erase requestId
    bySubscription := serverId.elim session.bySubscription session.bySubscription.erase }

private theorem find?_byRequest_without {removed : Option UInt64} {id : UInt64} :
    (session.without requestId removed).byRequest.find? id =
      if id = requestId then none else session.byRequest.find? id :=
  IdTable.find?_erase

/-- Forgetting an id of the server concerns that id alone. -/
theorem find?_bySubscription_without {removed : Option UInt64} :
    (session.without requestId removed).bySubscription.find? serverId =
      if removed = some serverId then none else session.bySubscription.find? serverId := by
  cases removed with
  | none => rfl
  | some gone =>
      refine IdTable.find?_erase.trans ?_
      by_cases same : serverId = gone
      · rw [if_pos same, if_pos (congrArg some same.symm)]
      · rw [if_neg same, if_neg fun named => same (Option.some.inj named).symm]

/-- What is removed was known by its request. -/
theorem remove_eq_some_iff {after : Session α} :
    session.remove requestId = some (after, place, subscription) ↔
      session.byRequest.find? requestId = some place ∧
        session.subscriptions[place]? = some subscription ∧
          after = session.without requestId subscription.serverId := by
  simp only [remove, live?, Option.bind_eq_bind, Option.bind_eq_some_iff, Option.pure_def,
    Option.some.injEq, Prod.mk.injEq, Prod.exists, without]
  constructor
  · rintro ⟨_, _, ⟨_, known, leaving, found, rfl, rfl⟩, rfl, rfl, rfl⟩
    refine ⟨known, found, ?_⟩
    cases leaving.serverId <;> rfl
  · rintro ⟨known, found, rfl⟩
    refine ⟨_, _, ⟨_, known, _, found, rfl, rfl⟩, ?_, rfl, rfl⟩
    cases subscription.serverId <;> rfl

namespace Consistent

variable (consistent : session.Consistent)
  (found : session.subscriptions[place]? = some subscription)
  (known : session.byRequest.find? subscription.requestId = some place)

include consistent

/-- Nothing is removed for an unknown request. -/
theorem remove_eq_none_iff :
    session.remove requestId = none ↔ session.byRequest.find? requestId = none := by
  constructor
  · intro stays
    by_contra known
    obtain ⟨place, known⟩ := Option.ne_none_iff_exists'.mp known
    obtain ⟨subscription, found, _⟩ := consistent.requested requestId place known
    rw [remove_eq_some_iff.mpr ⟨known, found, rfl⟩] at stays
    cases stays
  · intro unknown
    simp only [remove, live?, unknown]
    rfl

include found known

/-- Forgetting a subscription by both of its ids keeps the tables consistent. -/
theorem without :
    (session.without subscription.requestId subscription.serverId).Consistent := by
  refine ⟨consistent.distinctRequests.erase, ?_, ?_, ?_⟩
  · cases subscription.serverId with
    | none => exact consistent.distinctSubscriptions
    | some serverId => exact consistent.distinctSubscriptions.erase
  · intro requestId other still
    rw [find?_byRequest_without] at still
    split at still
    · cases still
    · exact consistent.requested requestId other still
  · intro serverId other still
    rw [find?_bySubscription_without] at still
    split at still
    case isTrue => cases still
    case isFalse different =>
      obtain ⟨neighbour, present, named, live⟩ := consistent.acknowledged serverId other still
      refine ⟨neighbour, present, named, ?_⟩
      -- A subscription of the same request would be the one that leaves.
      rw [find?_byRequest_without, if_neg ?_]
      · exact live
      · intro same
        rw [same, known] at live
        cases live
        rw [found] at present
        cases present
        exact different named

/-- Who leaves is not live any more, and nobody else leaves. -/
theorem live_without_iff :
    (session.without subscription.requestId subscription.serverId).Live other ↔
      session.Live other ∧ other ≠ place := by
  simp only [Live, find?_byRequest_without]
  constructor
  · rintro ⟨requestId, still⟩
    split at still
    case isTrue => cases still
    case isFalse different =>
      refine ⟨⟨requestId, still⟩, ?_⟩
      rintro rfl
      exact different (consistent.requestId_eq found still).symm
  · rintro ⟨⟨requestId, live⟩, elsewhere⟩
    refine ⟨requestId, ?_⟩
    rw [if_neg, live]
    rintro rfl
    rw [known] at live
    exact elsewhere (Option.some.inj live).symm

end Consistent

/-- Forgetting lists nothing new. -/
theorem listed_of_listed_without (requestId : UInt64) {removed : Option UInt64}
    (listed : (session.without requestId removed).Listed other) : session.Listed other := by
  obtain ⟨serverId, still⟩ := listed
  rw [find?_bySubscription_without] at still
  split at still
  · cases still
  · exact ⟨serverId, still⟩

/-! ### A subscription is added, acknowledged, or all are given up -/

/-- A session with one more subscription. -/
def add (subscription : Subscription α) (session : Session α) : Session α :=
  { session with
    subscriptions := session.subscriptions ++ [subscription]
    byRequest := session.byRequest.insert subscription.requestId session.subscriptions.length }

/-- A new subscription is known by its request. -/
theorem find?_byRequest_add {id : UInt64} :
    (session.add subscription).byRequest.find? id =
      if id = subscription.requestId then some session.subscriptions.length
      else session.byRequest.find? id :=
  IdTable.find?_insert

/-- A new subscription under a free id keeps the tables consistent. -/
theorem Consistent.add (consistent : session.Consistent)
    (free : session.byRequest.find? subscription.requestId = none) :
    (session.add subscription).Consistent := by
  have kept : ∀ (place : Nat) (old : Subscription α), session.subscriptions[place]? = some old →
      (session.subscriptions ++ [subscription])[place]? = some old := by
    intro place old found
    exact List.getElem?_append_left (List.getElem?_eq_some_iff.mp found).1 ▸ found
  refine ⟨consistent.distinctRequests.insert, consistent.distinctSubscriptions, ?_, ?_⟩
  · intro requestId place known
    rw [find?_byRequest_add] at known
    split at known
    case isTrue same =>
      cases known
      exact ⟨subscription, List.getElem?_concat_length, same.symm⟩
    case isFalse =>
      obtain ⟨old, found, named⟩ := consistent.requested requestId place known
      exact ⟨old, kept place old found, named⟩
  · intro serverId place known
    obtain ⟨old, found, named, live⟩ := consistent.acknowledged serverId place known
    refine ⟨old, kept place old found, named, ?_⟩
    rw [find?_byRequest_add, if_neg]
    · exact live
    · intro same
      rw [same, free] at live
      cases live

/-- A new subscription makes no other one live or dead. -/
theorem live_add_iff (elsewhere : other ≠ session.subscriptions.length)
    (free : session.byRequest.find? subscription.requestId = none) :
    (session.add subscription).Live other ↔ session.Live other := by
  simp only [Live, find?_byRequest_add]
  constructor
  · rintro ⟨requestId, known⟩
    split at known
    · exact (elsewhere (Option.some.inj known).symm).elim
    · exact ⟨requestId, known⟩
  · rintro ⟨requestId, known⟩
    refine ⟨requestId, ?_⟩
    rw [if_neg, known]
    rintro rfl
    rw [free] at known
    cases known

/-- A session in which the server has given its id to the subscription at a place. -/
def accept (serverId : UInt64) (place : Nat) (session : Session α) : Session α :=
  { session.update place ({ · with serverId := some serverId }) with
    bySubscription := session.bySubscription.insert serverId place }

/-- An id that the server gives is known for its subscription. -/
theorem find?_bySubscription_accept {id : UInt64} :
    (session.accept serverId place).bySubscription.find? id =
      if id = serverId then some place else session.bySubscription.find? id :=
  IdTable.find?_insert

/-- Listing a subscription lists no other one. -/
theorem listed_of_listed_accept (elsewhere : other ≠ place)
    (listed : (session.accept serverId place).Listed other) : session.Listed other := by
  obtain ⟨id, known⟩ := listed
  rw [find?_bySubscription_accept] at known
  split at known
  · exact (elsewhere (Option.some.inj known).symm).elim
  · exact ⟨id, known⟩

/-- Giving the server's id to a live subscription that has none keeps the tables consistent. -/
theorem Consistent.accept (consistent : session.Consistent)
    (found : session.subscriptions[place]? = some subscription)
    (known : session.byRequest.find? subscription.requestId = some place)
    (unnamed : subscription.serverId = none) : (session.accept serverId place).Consistent := by
  refine ⟨consistent.distinctRequests, consistent.distinctSubscriptions.insert, ?_, ?_⟩
  · intro requestId other live
    obtain ⟨old, present, named⟩ := consistent.requested requestId other live
    by_cases same : other = place
    · subst same
      exact ⟨_, getElem?_update_self present, named⟩
    · exact ⟨old, (getElem?_update_of_ne same).trans present, named⟩
  · intro id other listed
    rw [find?_bySubscription_accept] at listed
    split at listed
    case isTrue same =>
      cases listed
      exact ⟨_, getElem?_update_self found, congrArg some same.symm, known⟩
    case isFalse =>
      obtain ⟨old, present, named, live⟩ := consistent.acknowledged id other listed
      have elsewhere : other ≠ place := by
        rintro rfl
        rw [found] at present
        cases present
        rw [unnamed] at named
        cases named
      exact ⟨old, (getElem?_update_of_ne elsewhere).trans present, named, live⟩

/-- Nothing is live after all have failed. -/
theorem not_live_failAll {reason : SubscriptionError} : ¬ (session.failAll reason).Live place := by
  rintro ⟨_, ⟨⟩⟩

/-- The tables are consistent after all have failed. -/
theorem consistent_failAll {reason : SubscriptionError} : (session.failAll reason).Consistent where
  distinctRequests := IdTable.distinct_empty
  distinctSubscriptions := IdTable.distinct_empty
  requested := by
    rintro _ _ ⟨⟩
  acknowledged := by
    rintro _ _ ⟨⟩

/-- The same change at one place after the other. -/
def updateEach (places : List Nat) (change : Subscription α → Subscription α)
    (session : Session α) : Session α :=
  places.foldl (fun session place => session.update place change) session

private theorem ids_updateEach (places : List Nat) :
    (session.updateEach places change).ids = session.ids := by
  induction places generalizing session with
  | nil => rfl
  | cons place rest ih => exact ih

/-- Failing draws no id. -/
theorem ids_failAll {reason : SubscriptionError} : (session.failAll reason).ids = session.ids :=
  ids_updateEach _

private theorem getElem?_updateEach_of_not_mem {places : List Nat} (absent : other ∉ places) :
    (session.updateEach places change).subscriptions[other]? = session.subscriptions[other]? := by
  induction places generalizing session with
  | nil => rfl
  | cons place rest ih =>
      rw [List.mem_cons, not_or] at absent
      exact (ih absent.2).trans (getElem?_update_of_ne absent.1)

private theorem getElem?_updateEach_of_mem {places : List Nat} (distinct : places.Nodup)
    (member : other ∈ places) :
    (session.updateEach places change).subscriptions[other]? =
      session.subscriptions[other]?.map change := by
  induction places generalizing session with
  | nil => cases member
  | cons place rest ih =>
      obtain ⟨absent, distinctRest⟩ := List.nodup_cons.mp distinct
      rcases List.mem_cons.mp member with rfl | behind
      · exact (getElem?_updateEach_of_not_mem absent).trans (List.getElem?_modify_eq _ _ _)
      · have elsewhere : other ≠ place := by
          rintro rfl
          exact absent behind
        refine (ih distinctRest behind).trans ?_
        rw [getElem?_update_of_ne elsewhere]

namespace Consistent

variable (consistent : session.Consistent) {reason : SubscriptionError}

include consistent

/-- Giving up all subscriptions tells the live ones why, each of them once. -/
theorem getElem?_failAll (live : session.Live place) :
    (session.failAll reason).subscriptions[place]? =
      session.subscriptions[place]?.map (·.fail reason) := by
  refine getElem?_updateEach_of_mem (consistent.distinctRequests.nodup_values ?_)
    (consistent.distinctRequests.mem_values_iff.mpr live)
  intro id again place known twice
  obtain ⟨subscription, found, rfl⟩ := consistent.requested id place known
  exact consistent.requestId_eq found twice

/-- What is not live is not told. -/
theorem getElem?_failAll_of_not_live (gone : ¬ session.Live place) :
    (session.failAll reason).subscriptions[place]? = session.subscriptions[place]? := by
  apply getElem?_updateEach_of_not_mem
  rwa [consistent.distinctRequests.mem_values_iff]

end Consistent

end LedgerClient.Session
