import PromptRail.Site.Subscriptions

/-!
# What the subscriptions of a user allow

A user's access is the status of the one row that every subscription of the user rewrites. So it is what the subscriptions say exactly
as long as no subscription ends while another one is active, and the beta entitlement, which no event takes back, keeps the
infinite product allowed after the last subscription ends.
-/

namespace PromptRail

open Collection (updateOne upsertOne updateMany eq_of_mem_upsertOne mem_upsertOne mem_upsertOne_of_mem)
open Transition (Throughout Along monitor along_of_mem throughout_iff_along_through)

namespace Site

/-- A step of the site. -/
inductive AccessAction where
  | event (e : WebhookEvent)
  | optIn (optInEnabled : Bool) (userId : String) (email : Option String)
  | createKey (request : KeyRequest)
  | installKey (id userId digest : String)
  | installInfinite (id userId : String)

/-- What a step leaves; one that is refused changes nothing. -/
def AccessAction.run (store : Store) : AccessAction → Store
  | .event e => (handleEvent store e).toOption.getD store
  | .optIn optInEnabled userId email => (optIntoInfiniteBeta optInEnabled store userId email).toOption.getD store
  | .createKey request => (createApiKey store request).toOption.getD store
  | .installKey id userId digest => installApiKey store id userId digest
  | .installInfinite id userId => (installInfiniteKey store id userId).toOption.getD store

/-- The plugin subscription an event is about, and the user its session names. -/
def WebhookEvent.subject : WebhookEvent → Option (Subscription × Option String)
  | .subscriptionCreated subscription | .subscriptionUpdated subscription | .subscriptionDeleted subscription =>
    if isPluginSubscription subscription.kind then some (subscription, none) else none
  | .checkoutCompleted session =>
    if isPluginSubscription session.kind then
      session.subscription.map fun subscription => (subscription, orElse session.clientReferenceId session.userId)
    else none

/-- The events so far, each with its subscription and the status it told, and how many keys there were at the last one. -/
structure AccessHistory where
  events : List (String × String) := []
  settled : Nat := 0

/-- What a step adds to the history. -/
def observeAccess (history : AccessHistory) (store : Store) (action : AccessAction) (_ : Store) : AccessHistory :=
  match action with
  | .event e =>
    match e.subject with
    | some (subscription, _) =>
      { events := history.events ++ [(subscription.id, subscription.status)], settled := store.apiKeys.length }
    | none => history
  | _ => history

/-- The status that the last event of a subscription told. -/
def latestStatus (events : List (String × String)) (subscriptionId : String) : Option String :=
  (events.reverse.find? fun event => event.1 = subscriptionId).map (·.2)

/-- A subscription is active by its last event. -/
def Subscribed (events : List (String × String)) (subscriptionId : String) : Prop :=
  (latestStatus events subscriptionId).any pluginSubscriptionActive = true

/-- Some subscription is active by its last event. -/
def SomeSubscribed (events : List (String × String)) : Prop := ∃ subscriptionId, Subscribed events subscriptionId

/-- A key of the plugins or of the infinite product. -/
def ApiKey.isProduct (key : ApiKey) : Bool := key.isPlugin || decide (key.kind = some "infinite")

/-- The subscriptions of a user decide what the user may do. -/
structure AccessDecided (userId : String) (store : Store) (history : AccessHistory) : Prop where
  plugin : (getPluginAccess store userId).allowed = true ↔ SomeSubscribed history.events
  infinite : ¬ SomeSubscribed history.events → (getInfiniteAccess store userId).allowed = false
  keys : ¬ SomeSubscribed history.events →
    ∀ key ∈ store.apiKeys.take history.settled, key.userId = userId → key.isProduct = true → key.revoked = true

/-- An event is of a subscription of the user: it names the user, or nobody. -/
def AccessAction.Concerns (userId : String) : AccessAction → Prop
  | .event e => ∀ subject ∈ e.subject, ∀ owner ∈ orElse subject.1.userId subject.2, owner = userId
  | _ => True

/-- An event that is read leaves a subscription active, or ends the last one of a user who is not in the beta; one that is passed
over changes nothing about whether some subscription is active. -/
def EndsLast (userId : String) (p : Store × AccessHistory) : AccessAction → Prop
  | .event e =>
    ∀ subject ∈ e.subject,
      match resolvePluginSubscriptionUserId p.1 (orElse subject.1.userId subject.2) subject.1.id with
      | some _ => pluginSubscriptionActive subject.1.status = true ∨
          (∀ other, other ≠ subject.1.id → ¬ Subscribed p.2.events other) ∧
          ∀ row ∈ p.1.entitlements, row.userId = userId → row.product ≠ "infinite_beta"
      | none => SomeSubscribed p.2.events ↔ SomeSubscribed (p.2.events ++ [(subject.1.id, subject.1.status)])
  | _ => True

namespace AccessAux

variable {store : Store} {history : AccessHistory} {userId : String} {events : List (String × String)}

/-! ## The history -/

theorem subscribed_append (id status other : String) :
    Subscribed (events ++ [(id, status)]) other ↔
      if id = other then pluginSubscriptionActive status = true else Subscribed events other := by
  unfold Subscribed latestStatus
  rw [List.reverse_append, List.reverse_singleton, List.singleton_append, List.find?_cons]
  by_cases h : id = other
  · simp [h]
  · simp [h]

/-- After an event, some subscription is active when that one is or another one was. -/
theorem someSubscribed_append (id status : String) :
    SomeSubscribed (events ++ [(id, status)]) ↔
      pluginSubscriptionActive status = true ∨ ∃ other, other ≠ id ∧ Subscribed events other := by
  unfold SomeSubscribed
  simp only [subscribed_append]
  constructor
  · rintro ⟨other, hother⟩
    by_cases h : id = other
    · rw [if_pos h] at hother
      exact Or.inl hother
    · rw [if_neg h] at hother
      exact Or.inr ⟨other, Ne.symm h, hother⟩
  · rintro (hactive | ⟨other, hne, hother⟩)
    · exact ⟨id, by rw [if_pos rfl]; exact hactive⟩
    · exact ⟨other, by rw [if_neg (Ne.symm hne)]; exact hother⟩

/-! ## What is allowed -/

/-- The status of the entitlement row is active when the subscription is. -/
theorem active_infiniteRow (email : Option String) (status : String) :
    pluginSubscriptionActive (infiniteRow userId email status).status = pluginSubscriptionActive status := by
  unfold infiniteRow pluginSubscriptionActive
  simp only [String.toList_ofList, List.map_map]
  rw [PyText.toLower_comp]
  unfold statusOr
  split
  · rename_i h
    rw [h]
    decide
  · rfl

theorem active_subscriptionRow (email : Option String) (status : String) (customer : Option String) (id : String) (cancel : Bool) :
    pluginSubscriptionActive (subscriptionRow userId email status customer id cancel).status = pluginSubscriptionActive status := by
  unfold subscriptionRow statusOr
  dsimp only
  split
  · rename_i h
    rw [h]
    decide
  · rfl

/-- The infinite product is allowed by an active entitlement whose scopes say so. -/
theorem infinite_allowed_iff :
    (getInfiniteAccess store userId).allowed = true ↔
      userId ≠ "" ∧ ∃ row ∈ store.entitlements, row.userId = userId ∧ row.isActive = true ∧ "infinite:infer" ∈ row.scopes := by
  have hsnapshot : ∀ rows : List Entitlement, (buildInfiniteAccessSnapshot rows).allowed = true ↔
      ∃ row ∈ rows, row.isActive = true ∧ "infinite:infer" ∈ row.scopes := by
    intro rows
    simp only [buildInfiniteAccessSnapshot, sortedSet, Bool.and_eq_true, Bool.not_eq_true', List.contains_iff_mem,
      List.mem_insertionSort, List.mem_dedup, List.mem_flatMap, List.mem_filter]
    constructor
    · rintro ⟨-, row, ⟨hrow, hactive⟩, hscope⟩
      exact ⟨row, hrow, hactive, hscope⟩
    · rintro ⟨row, hrow, hactive, hscope⟩
      refine ⟨?_, row, ⟨hrow, hactive⟩, hscope⟩
      rw [List.isEmpty_eq_false_iff_exists_mem]
      refine ⟨row.product, ?_⟩
      rw [List.mem_insertionSort, List.mem_dedup]
      exact List.mem_map.2 ⟨row, List.mem_filter.2 ⟨hrow, hactive⟩, rfl⟩
  unfold getInfiniteAccess
  split
  · rename_i h
    rw [hsnapshot]
    simp [h]
  · rename_i h
    rw [hsnapshot]
    simp only [List.mem_filter, Bool.and_eq_true, decide_eq_true_eq]
    constructor
    · rintro ⟨row, ⟨hrow, huser, -⟩, hactive, hscope⟩
      exact ⟨h, row, hrow, huser, hactive, hscope⟩
    · rintro ⟨-, row, hrow, huser, hactive, hscope⟩
      exact ⟨row, ⟨hrow, huser, (Bool.and_eq_true_iff.1 hactive).1⟩, hactive, hscope⟩

/-! ## What an event does -/

/-- The store after an event of a subscription of the user. -/
def synced (store : Store) (userId : String) (subscription : Subscription) : Store :=
  let userEmail := subscription.userEmail.filter (· ≠ "")
  let row := subscriptionRow userId userEmail subscription.status subscription.customer subscription.id
    subscription.cancelAtPeriodEnd
  syncInfiniteSubscriptionEntitlement (syncPluginSubscription store row subscription.status) userId userEmail subscription.status

theorem run_event_none {e : WebhookEvent} (h : e.subject = none) : (AccessAction.event e).run store = store := by
  cases e with
  | checkoutCompleted session =>
    simp only [AccessAction.run, handleEvent, WebhookEvent.subject] at h ⊢
    split
    · rename_i hkind
      rw [if_pos hkind, Option.map_eq_none_iff] at h
      simp [completePluginSubscriptionCheckout, h, Except.toOption]
    · rfl
  | _ subscription =>
    simp only [AccessAction.run, handleEvent, WebhookEvent.subject] at h ⊢
    split
    · rename_i hkind
      rw [if_pos hkind] at h
      cases h
    · rfl

theorem run_event_some {e : WebhookEvent} {subscription : Subscription} {owner : Option String}
    (h : e.subject = some (subscription, owner)) :
    (AccessAction.event e).run store = (syncStripePluginSubscription store subscription owner).toOption.getD store := by
  cases e with
  | checkoutCompleted session =>
    simp only [AccessAction.run, handleEvent, WebhookEvent.subject] at h ⊢
    split
    · rename_i hkind
      rw [if_pos hkind, Option.map_eq_some_iff] at h
      obtain ⟨_, hsession, heq⟩ := h
      cases heq
      simp [completePluginSubscriptionCheckout, hsession]
    · rename_i hkind
      rw [if_neg hkind] at h
      cases h
  | _ subscription =>
    simp only [AccessAction.run, handleEvent, WebhookEvent.subject] at h ⊢
    split
    · rename_i hkind
      rw [if_pos hkind] at h
      cases h
      rfl
    · rename_i hkind
      rw [if_neg hkind] at h
      cases h

theorem run_event_passed {e : WebhookEvent} {subscription : Subscription} {owner : Option String}
    (h : e.subject = some (subscription, owner))
    (hnone : resolvePluginSubscriptionUserId store (orElse subscription.userId owner) subscription.id = none) :
    (AccessAction.event e).run store = store := by
  rw [run_event_some h]
  unfold syncStripePluginSubscription
  rw [hnone]
  dsimp only
  split <;> rfl

theorem run_event_read {e : WebhookEvent} {subscription : Subscription} {owner : Option String}
    (h : e.subject = some (subscription, owner))
    (hsome : resolvePluginSubscriptionUserId store (orElse subscription.userId owner) subscription.id = some userId) :
    (AccessAction.event e).run store = synced store userId subscription := by
  rw [run_event_some h]
  unfold syncStripePluginSubscription
  rw [hsome]
  simp only [Except.toOption, Option.getD_some, synced]

/-- An event is of the user it names, or of the user whose row its subscription is in. -/
theorem owner_of_resolved {named : Option String} {id owner : String}
    (hnamed : ∀ name ∈ named, name = userId) (hrows : ∀ row ∈ store.pluginAccess, row.userId = userId)
    (h : resolvePluginSubscriptionUserId store named id = some owner) : owner = userId := by
  unfold resolvePluginSubscriptionUserId at h
  split at h
  · rename_i name hname
    cases h
    exact hnamed owner (Option.eq_some_of_filter_eq_some hname)
  · split at h
    · cases h
    · obtain ⟨row, hrow, howner⟩ := Option.bind_eq_some_iff.1 h
      rw [← hrows row (List.mem_of_find?_eq_some hrow)]
      exact (Option.some.inj (Option.eq_some_of_filter_eq_some howner)).symm

/-- No user of an event is the empty one. -/
theorem ne_empty_of_resolved {named : Option String} {id owner : String}
    (h : resolvePluginSubscriptionUserId store named id = some owner) : owner ≠ "" := by
  unfold resolvePluginSubscriptionUserId at h
  split at h
  · rename_i name hname
    cases h
    exact of_decide_eq_true (Option.filter_eq_some_iff.1 hname).2
  · split at h
    · cases h
    · obtain ⟨row, -, howner⟩ := Option.bind_eq_some_iff.1 h
      exact of_decide_eq_true (Option.filter_eq_some_iff.1 howner).2

/-! ### Its rows -/

variable {subscription : Subscription}

theorem synced_pluginAccess : (synced store userId subscription).pluginAccess =
    let row := subscriptionRow userId (subscription.userEmail.filter (· ≠ "")) subscription.status subscription.customer
      subscription.id subscription.cancelAtPeriodEnd
    upsertOne (fun old => old.userId = userId) (fun _ => row) row store.pluginAccess := by
  unfold synced syncInfiniteSubscriptionEntitlement syncPluginSubscription
  dsimp only
  split <;> split <;> rfl

theorem synced_entitlements : (synced store userId subscription).entitlements =
    let row := infiniteRow userId (subscription.userEmail.filter (· ≠ "")) subscription.status
    upsertOne (fun old => (old.userId, old.product) = (row.userId, row.product)) (fun _ => row) row store.entitlements := by
  unfold synced syncInfiniteSubscriptionEntitlement syncPluginSubscription
  dsimp only
  split <;> split <;> rfl

/-- After an event of the user, the plugins are allowed when its subscription is active. -/
theorem synced_plugin (h : userId ≠ "") :
    (getPluginAccess (synced store userId subscription) userId).allowed = pluginSubscriptionActive subscription.status := by
  unfold getPluginAccess subscriptionForUser
  rw [if_neg h, synced_pluginAccess]
  dsimp only
  rw [Collection.find?_upsertOne (by simp [subscriptionRow]) (by simp [subscriptionRow])]
  have hrow : pluginSubscriptionActive (subscriptionRow userId (subscription.userEmail.filter (· ≠ "")) subscription.status
      subscription.customer subscription.id subscription.cancelAtPeriodEnd).status = pluginSubscriptionActive subscription.status :=
    active_subscriptionRow _ _ _ _ _
  cases store.pluginAccess.find? fun old => decide (old.userId = userId) with
  | none => simpa [buildPluginAccessSnapshot] using hrow
  | some old => simpa [buildPluginAccessSnapshot] using hrow

/-! ### Its keys -/

theorem mem_revokeKeys {filter : ApiKey → Bool} {reason : String} {key : ApiKey}
    (h : key ∈ (revokeKeys store userId filter reason).apiKeys) :
    (key ∈ store.apiKeys ∨ key.revoked = true) ∧ (key.userId = userId → filter key = true → key.revoked = true) := by
  unfold revokeKeys updateMany at h
  obtain ⟨old, hold, rfl⟩ := List.mem_map.1 h
  by_cases hmeets : (decide (old.userId = userId) && !old.revoked && filter old) = true
  · rw [if_pos hmeets]
    exact ⟨Or.inr rfl, fun _ _ => rfl⟩
  · rw [if_neg hmeets]
    refine ⟨Or.inl hold, fun huser hkey => ?_⟩
    by_contra hrevoked
    exact hmeets (by simp [huser, hkey, hrevoked])

theorem synced_keys_active (h : pluginSubscriptionActive subscription.status = true) :
    (synced store userId subscription).apiKeys = store.apiKeys := by
  unfold synced syncInfiniteSubscriptionEntitlement syncPluginSubscription
  dsimp only
  rw [if_pos h, active_infiniteRow, if_pos h]
  rfl

/-- An event that ends a subscription revokes every key of a product. -/
theorem synced_keys_ended (h : pluginSubscriptionActive subscription.status = false) :
    ∀ key ∈ (synced store userId subscription).apiKeys, key.userId = userId → key.isProduct = true → key.revoked = true := by
  intro key hkey huser hproduct
  unfold synced syncInfiniteSubscriptionEntitlement syncPluginSubscription at hkey
  dsimp only at hkey
  rw [h, active_infiniteRow, h] at hkey
  obtain ⟨hold, hinfinite⟩ := mem_revokeKeys hkey
  unfold ApiKey.isProduct at hproduct
  rcases Bool.or_eq_true_iff.1 hproduct with hplugin | hkind
  · rcases hold with hold | hrevoked
    · exact (mem_revokeKeys hold).2 huser hplugin
    · exact hrevoked
  · exact hinfinite huser hkind

/-! ## What a run keeps -/

/-- What holds of the store of a user's subscriptions while they decide what is allowed. -/
structure Kept (userId : String) (store : Store) (history : AccessHistory) : Prop where
  plugin : (getPluginAccess store userId).allowed = true ↔ SomeSubscribed history.events
  rows : ∀ row ∈ store.pluginAccess, row.userId = userId
  single : (store.entitlements.map fun row => (row.userId, row.product)).Nodup
  beta : ∀ row ∈ store.entitlements, row.userId = userId → row.product = "infinite_beta" →
    row.isActive = true ∧ "infinite:infer" ∈ row.scopes
  lapsed : ¬ SomeSubscribed history.events → ∀ row ∈ store.entitlements, row.userId = userId → row.isActive = false
  keys : ¬ SomeSubscribed history.events → ∀ key ∈ store.apiKeys, key.userId = userId → key.isProduct = true → key.revoked = true

/-- Nothing infinite is allowed where no entitlement of the user is active. -/
theorem infinite_refused (h : ∀ row ∈ store.entitlements, row.userId = userId → row.isActive = false) :
    (getInfiniteAccess store userId).allowed = false := by
  rw [← Bool.not_eq_true, infinite_allowed_iff]
  rintro ⟨-, row, hrow, huser, hactive, -⟩
  rw [h row hrow huser] at hactive
  cases hactive

theorem decided_of_kept (h : Kept userId store history) : AccessDecided userId store history :=
  ⟨h.plugin, fun hnone => infinite_refused (h.lapsed hnone), fun hnone key hkey => h.keys hnone key (List.mem_of_mem_take hkey)⟩

/-- A key that is made keeps what a run keeps, if a key of a product is made for a user with a subscription. -/
theorem kept_insert {key : ApiKey} (h : Kept userId store history)
    (hkey : key.userId = userId → key.isProduct = true → SomeSubscribed history.events) :
    Kept userId (insertApiKey store key) history := by
  refine { h with keys := ?_ }
  intro hnone old hold huser hproduct
  rcases List.mem_append.1 hold with hbefore | hnew
  · exact h.keys hnone old hbefore huser hproduct
  · obtain rfl := List.mem_singleton.1 hnew
    exact absurd (hkey huser hproduct) hnone

/-- A user with the infinite product has a subscription. -/
theorem subscribed_of_infinite (h : Kept userId store history) (hallowed : (getInfiniteAccess store userId).allowed = true) :
    SomeSubscribed history.events := by
  by_contra hnone
  rw [infinite_refused (h.lapsed hnone)] at hallowed
  cases hallowed

theorem kept_createApiKey (h : Kept userId store history) (request : KeyRequest) :
    Kept userId ((createApiKey store request).toOption.getD store) history := by
  unfold createApiKey
  split
  · exact h
  · rename_i hinfinite
    split
    · exact h
    · rename_i hplugin
      refine kept_insert h ?_
      rintro rfl hproduct
      by_cases hkind : request.isInfiniteKey = true
      · refine subscribed_of_infinite h ?_
        simpa [hkind] using hinfinite
      · by_cases hroute : pluginRoute request.keyRoute = true
        · refine h.plugin.1 ?_
          simpa [hkind, hroute] using hplugin
        · simp [ApiKey.isProduct, ApiKey.isPlugin, KeyRequest.keyKind, hkind, hroute] at hproduct

/-- The route of an installation is none of the plugins. -/
theorem pluginRoute_install (digest : String) : pluginRoute ("route_" ++ digest) = false := by
  have hprefix : "plugin_".toList = ['p', 'l', 'u', 'g', 'i', 'n', '_'] := by decide
  have hroute : "route_".toList = ['r', 'o', 'u', 't', 'e', '_'] := by decide
  unfold pluginRoute
  rw [String.toList_append, hprefix, hroute]
  rfl

theorem kept_installApiKey (h : Kept userId store history) (id owner digest : String) :
    Kept userId (installApiKey store id owner digest) history := by
  refine kept_insert h ?_
  intro _ hproduct
  simp [ApiKey.isProduct, ApiKey.isPlugin, pluginRoute_install] at hproduct

theorem kept_installInfiniteKey (h : Kept userId store history) (id owner : String) :
    Kept userId ((installInfiniteKey store id owner).toOption.getD store) history := by
  unfold installInfiniteKey
  split
  · rename_i hallowed
    refine kept_insert h ?_
    rintro rfl -
    exact subscribed_of_infinite h hallowed
  · exact h

theorem single_setEntitlement {row : Entitlement} (h : (store.entitlements.map fun row => (row.userId, row.product)).Nodup) :
    ((setEntitlement store row).entitlements.map fun row => (row.userId, row.product)).Nodup :=
  Collection.nodup_upsertOne (k := (row.userId, row.product)) (by simp) (by simp) rfl h

/-- An opt-in is of a user with a subscription, and leaves an active row. -/
theorem kept_optIn (h : Kept userId store history) (optInEnabled : Bool) (owner : String) (email : Option String) :
    Kept userId ((optIntoInfiniteBeta optInEnabled store owner email).toOption.getD store) history := by
  unfold optIntoInfiniteBeta
  split
  · exact h
  · split
    · exact h
    · split
      · exact h
      · rename_i hallowed
        have hmem : ∀ row ∈ (setEntitlement store (betaRow owner email)).entitlements,
            row ∈ store.entitlements ∨ row = betaRow owner email := by
          intro row hrow
          rcases mem_upsertOne hrow with hold | ⟨-, -, -, rfl⟩ | rfl
          · exact Or.inl hold
          · exact Or.inr rfl
          · exact Or.inr rfl
        have hbeta : (betaRow owner email).isActive = true := by
          change (infiniteProducts.contains "infinite_beta" && pluginSubscriptionActive "active") = true
          decide
        refine { h with single := single_setEntitlement h.single, beta := ?_, lapsed := ?_ }
        · intro row hrow huser hproduct
          rcases hmem row hrow with hold | rfl
          · exact h.beta row hold huser hproduct
          · exact ⟨hbeta, by simp [betaRow, infiniteInferenceScopes]⟩
        · intro hnone row hrow huser
          rcases hmem row hrow with hold | rfl
          · exact h.lapsed hnone row hold huser
          · refine absurd (h.plugin.1 ?_) hnone
            obtain rfl : owner = userId := huser
            simpa using hallowed

/-! ## Events that are read -/

theorem beta_of_mem_synced {row : Entitlement} (h : row ∈ (synced store userId subscription).entitlements) :
    row ∈ store.entitlements ∨ row = infiniteRow userId (subscription.userEmail.filter (· ≠ "")) subscription.status := by
  rw [synced_entitlements] at h
  rcases mem_upsertOne h with hold | ⟨-, -, -, rfl⟩ | rfl
  · exact Or.inl hold
  · exact Or.inr rfl
  · exact Or.inr rfl

/-- An entitlement of another product is left. -/
theorem mem_synced_of_mem {row : Entitlement} (h : row ∈ store.entitlements) (hrow : row.product ≠ "infinite") :
    row ∈ (synced store userId subscription).entitlements := by
  rw [synced_entitlements]
  refine mem_upsertOne_of_mem h ?_
  simp [infiniteRow, hrow]

/-- An event that ends the last subscription of a user outside the beta leaves no entitlement active. -/
theorem lapsed_synced (h : Kept userId store history) (hended : pluginSubscriptionActive subscription.status = false)
    (hbeta : ∀ row ∈ store.entitlements, row.userId = userId → row.product ≠ "infinite_beta") :
    ∀ row ∈ (synced store userId subscription).entitlements, row.userId = userId → row.isActive = false := by
  intro row hrow huser
  have hinfinite : (infiniteRow userId (subscription.userEmail.filter (· ≠ "")) subscription.status).isActive = false := by
    unfold Entitlement.isActive
    rw [active_infiniteRow, hended, Bool.and_false]
  by_cases hproduct : row.product = "infinite"
  · have hkey : row = infiniteRow userId (subscription.userEmail.filter (· ≠ "")) subscription.status := by
      rw [synced_entitlements] at hrow
      exact eq_of_mem_upsertOne h.single hrow (Prod.ext huser hproduct)
    rw [hkey, hinfinite]
  · rcases beta_of_mem_synced hrow with hold | rfl
    · have hother := hbeta row hold huser
      simp [Entitlement.isActive, infiniteProducts, hproduct, hother]
    · exact hinfinite

/-- An event that is read keeps what a run keeps, if it ends no subscription but the last of a user outside the beta. -/
theorem kept_synced {settled : Nat} (h : Kept userId store history) (huser : userId ≠ "")
    (hgood : pluginSubscriptionActive subscription.status = true ∨
      (∀ other, other ≠ subscription.id → ¬ Subscribed history.events other) ∧
        ∀ row ∈ store.entitlements, row.userId = userId → row.product ≠ "infinite_beta") :
    Kept userId (synced store userId subscription)
      { events := history.events ++ [(subscription.id, subscription.status)], settled } := by
  refine { plugin := ?_, rows := ?_, single := ?_, beta := ?_, lapsed := ?_, keys := ?_ }
  · rw [synced_plugin huser, someSubscribed_append]
    constructor
    · exact Or.inl
    · rintro (hactive | ⟨other, hne, hother⟩)
      · exact hactive
      · exact hgood.resolve_right fun hlast => hlast.1 other hne hother
  · intro row hrow
    rw [synced_pluginAccess] at hrow
    rcases mem_upsertOne hrow with hold | ⟨-, -, -, rfl⟩ | rfl
    · exact h.rows row hold
    · rfl
    · rfl
  · rw [synced_entitlements]
    exact Collection.nodup_upsertOne (k := (userId, "infinite")) (by simp [infiniteRow]) (by simp [infiniteRow]) rfl h.single
  · intro row hrow howner hproduct
    rcases beta_of_mem_synced hrow with hold | rfl
    · exact h.beta row hold howner hproduct
    · simp [infiniteRow] at hproduct
  · intro hnone
    rw [someSubscribed_append, not_or, Bool.not_eq_true] at hnone
    refine lapsed_synced h hnone.1 ?_
    exact (hgood.resolve_left (by rw [hnone.1]; exact Bool.false_ne_true)).2
  · intro hnone
    rw [someSubscribed_append, not_or, Bool.not_eq_true] at hnone
    exact synced_keys_ended hnone.1

/-- Where the subscriptions decide what is allowed after an event that is read, it ended the last of a user outside the beta. -/
theorem endsLast_of_decided {settled : Nat} (h : Kept userId store history) (huser : userId ≠ "")
    (hnext : AccessDecided userId (synced store userId subscription)
      { events := history.events ++ [(subscription.id, subscription.status)], settled }) :
    pluginSubscriptionActive subscription.status = true ∨
      (∀ other, other ≠ subscription.id → ¬ Subscribed history.events other) ∧
        ∀ row ∈ store.entitlements, row.userId = userId → row.product ≠ "infinite_beta" := by
  by_cases hactive : pluginSubscriptionActive subscription.status = true
  · exact Or.inl hactive
  · have hnone : ¬ SomeSubscribed (history.events ++ [(subscription.id, subscription.status)]) := by
      rw [← hnext.plugin, synced_plugin huser]
      exact hactive
    refine Or.inr ⟨?_, ?_⟩
    · intro other hne hother
      exact hnone ((someSubscribed_append _ _).2 (Or.inr ⟨other, hne, hother⟩))
    · intro row hrow howner hproduct
      obtain ⟨hrowActive, hscope⟩ := h.beta row hrow howner hproduct
      have hleft : row ∈ (synced store userId subscription).entitlements := mem_synced_of_mem hrow (by simp [hproduct])
      have hrefused := hnext.infinite hnone
      rw [infinite_allowed_iff.2 ⟨huser, row, hleft, howner, hrowActive, hscope⟩] at hrefused
      cases hrefused

end AccessAux

open AccessAux

/-- Over every sequence of events of one user's plugin subscriptions, opt-ins and keys made: the subscriptions decide what the user
may do throughout exactly when each event that is read leaves a subscription active or ends the last one of a user who is not in the
beta, and each one that is passed over changes nothing about whether some subscription is active. -/
theorem access_decided_iff (userId : String) (actions : List AccessAction) (h : ∀ action ∈ actions, action.Concerns userId) :
    Throughout (monitor AccessAction.run observeAccess) (fun p => AccessDecided userId p.1 p.2) ({}, {}) actions ↔
      Along (monitor AccessAction.run observeAccess) (EndsLast userId) ({}, {}) actions := by
  have hnone : ¬ SomeSubscribed [] := by
    rintro ⟨id, hid⟩
    cases hid
  have hfirst : Kept userId {} {} := by
    refine ⟨?_, nofun, List.nodup_nil, nofun, fun _ => nofun, fun _ => nofun⟩
    refine iff_of_false ?_ hnone
    unfold getPluginAccess subscriptionForUser
    split <;> exact Bool.false_ne_true
  refine throughout_iff_along_through (Q := fun p : Store × AccessHistory => Kept userId p.1 p.2)
    (fun p h => decided_of_kept h) ?_ ?_ hfirst (along_of_mem _ h)
  · rintro ⟨store, history⟩ action hkept hconcerns hnext
    cases action with
    | event e =>
      rintro ⟨subscription, owner⟩ hsubject
      have hread : e.subject = some (subscription, owner) := hsubject
      simp only [monitor, observeAccess, hread] at hnext
      cases hresolve : resolvePluginSubscriptionUserId store (orElse subscription.userId owner) subscription.id with
      | none =>
        rw [run_event_passed hread hresolve] at hnext
        exact hkept.plugin.symm.trans hnext.plugin
      | some resolved =>
        obtain rfl := owner_of_resolved (hconcerns _ hsubject) hkept.rows hresolve
        rw [run_event_read hread hresolve] at hnext
        exact endsLast_of_decided hkept (ne_empty_of_resolved hresolve) hnext
    | _ => trivial
  · rintro ⟨store, history⟩ action hkept hconcerns hgood
    cases action with
    | event e =>
      cases hsubject : e.subject with
      | none =>
        simp only [monitor, observeAccess, hsubject, run_event_none hsubject]
        exact hkept
      | some subject =>
        obtain ⟨subscription, owner⟩ := subject
        have hend := hgood _ hsubject
        simp only [monitor, observeAccess, hsubject]
        dsimp only at hend
        cases hresolve : resolvePluginSubscriptionUserId store (orElse subscription.userId owner) subscription.id with
        | none =>
          rw [hresolve] at hend
          rw [run_event_passed hsubject hresolve]
          refine { hkept with plugin := hkept.plugin.trans hend, lapsed := ?_, keys := ?_ }
          · exact fun hnone => hkept.lapsed fun hsome => hnone (hend.1 hsome)
          · exact fun hnone => hkept.keys fun hsome => hnone (hend.1 hsome)
        | some resolved =>
          obtain rfl := owner_of_resolved (hconcerns _ hsubject) hkept.rows hresolve
          rw [hresolve] at hend
          rw [run_event_read hsubject hresolve]
          exact kept_synced hkept (ne_empty_of_resolved hresolve) hend
    | optIn optInEnabled owner email => exact kept_optIn hkept optInEnabled owner email
    | createKey request => exact kept_createApiKey hkept request
    | installKey id owner digest => exact kept_installApiKey hkept id owner digest
    | installInfinite id owner => exact kept_installInfiniteKey hkept id owner

/-- A subscription that names its user. -/
def exampleSubscription (id status : String) : Subscription where
  id := id
  status := status
  kind := some "plugin_subscription"
  userId := some "user"

/-- A user subscribes, makes a key of a plugin and cancels. -/
def exampleActions : List AccessAction :=
  [.event (.subscriptionCreated (exampleSubscription "sub" "active")),
    .createKey { id := "key", userId := "user", routeId := some "plugin_search" },
    .event (.subscriptionDeleted (exampleSubscription "sub" "canceled"))]

theorem access_decided_example :
    Throughout (monitor AccessAction.run observeAccess) (fun p => AccessDecided "user" p.1 p.2) ({}, {}) exampleActions := by
  refine (access_decided_iff "user" exampleActions ?_).2 ⟨?_, trivial, ?_, trivial⟩
  · intro action haction
    simp only [exampleActions, List.mem_cons, List.not_mem_nil, or_false] at haction
    rcases haction with rfl | rfl | rfl
    · rintro _ ⟨⟩ _ ⟨⟩
      rfl
    · trivial
    · rintro _ ⟨⟩ _ ⟨⟩
      rfl
  · rintro _ ⟨⟩
    exact Or.inl (by decide)
  · rintro _ ⟨⟩
    refine Or.inr ⟨?_, by decide⟩
    intro other hne hother
    have hsingle : if "sub" = other then pluginSubscriptionActive "active" = true else Subscribed [] other :=
      (subscribed_append "sub" "active" other).1 hother
    rw [if_neg (show "sub" ≠ other from Ne.symm hne)] at hsingle
    cases hsingle

/-- A user changes to a second subscription, and then the first one ends: the plugins are refused. -/
theorem access_lost_after_change :
    ¬ Throughout (monitor AccessAction.run observeAccess) (fun p => AccessDecided "user" p.1 p.2) ({}, {})
      [.event (.subscriptionCreated (exampleSubscription "first" "active")),
        .event (.subscriptionCreated (exampleSubscription "second" "active")),
        .event (.subscriptionDeleted (exampleSubscription "first" "canceled"))] := by
  intro h
  have hallowed := h.last.plugin.2 ⟨"second", by unfold Subscribed; decide +kernel⟩
  revert hallowed
  decide +kernel

end Site

end PromptRail
