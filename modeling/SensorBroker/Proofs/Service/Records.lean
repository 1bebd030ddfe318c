/-
# What a change of the records leaves alone

The registry as arbitration sees it is, for each sensor, the table of its
subscribers. A subscription that is recorded or dropped changes one such
table; a change that fails later is undone, and all but the count of changes
is as it was (`Registry.Restored`). Nothing else that is recorded about a
process touches its subscriptions.

Key definitions: `Registry.Restored`.
Key theorems: `Registry.restored_put`, `Registry.restored_drop`.
-/
import Mathlib.Tactic.SplitIfs
import SensorBroker.Service.Registry

namespace SensorBroker
namespace Registry

/-! ### Subscriptions -/

theorem subscriptionsOf_setSubscribers (r : Registry) (s s' : SensorId) (t : Table Pid Request) :
    (r.setSubscribers s t).subscriptionsOf s' = if s' = s then t else r.subscriptionsOf s' := by
  simp only [subscriptionsOf, setSubscribers, Table.getD, Table.get?_insert]
  split <;> rfl

theorem subscriptionsOf_put (r : Registry) (pid : Pid) (s s' : SensorId) (request : Request) :
    (r.put pid s request).subscriptionsOf s' =
      if s' = s then (r.subscriptionsOf s).insert pid request else r.subscriptionsOf s' :=
  r.subscriptionsOf_setSubscribers s s' _

theorem subscriptionsOf_drop (r : Registry) (pid : Pid) (s s' : SensorId) :
    (r.drop pid s).subscriptionsOf s' =
      if s' = s then (r.subscriptionsOf s).erase pid else r.subscriptionsOf s' :=
  r.subscriptionsOf_setSubscribers s s' _

theorem subscriptionsOf_put_ne_empty (r : Registry) (pid : Pid) (s : SensorId)
    (request : Request) : (r.put pid s request).subscriptionsOf s ≠ ∅ := by
  intro h
  have := r.subscription_put_self pid s request
  rw [subscription, h] at this
  cases this

theorem subscription_drop_of_ne (r : Registry) {pid other : Pid} {s s' : SensorId}
    (h : other ≠ pid ∨ s' ≠ s) :
    (r.drop pid s).subscription other s' = r.subscription other s' := by
  rw [subscription, subscription, subscriptionsOf_drop]
  split_ifs with hs
  · subst hs
    exact Table.get?_erase_of_ne _ (h.resolve_right fun hne => hne rfl)
  · rfl

theorem subscribers_eq_nil_iff (r : Registry) (s : SensorId) :
    r.subscribers s = [] ↔ r.subscriptionsOf s = ∅ :=
  Table.keys_eq_nil_iff

theorem isSubscribed_iff (r : Registry) (s : SensorId) :
    r.isSubscribed s = true ↔ r.subscriptionsOf s ≠ ∅ := by
  rw [isSubscribed, Bool.not_eq_true', Bool.eq_false_iff, ne_eq, Table.isEmpty_iff_eq]

theorem not_isSubscribed_iff (r : Registry) (s : SensorId) :
    r.isSubscribed s = false ↔ r.subscriptionsOf s = ∅ := by
  rw [isSubscribed, Bool.not_eq_false', Table.isEmpty_iff_eq]

theorem mem_subscribers_iff (r : Registry) {pid : Pid} {s : SensorId} :
    pid ∈ r.subscribers s ↔ ∃ request, r.subscription pid s = some request :=
  Table.mem_keys_iff _

theorem remove_eq_ok_iff {r r' : Registry} {pid : Pid} {s : SensorId} {old : Request} :
    r.remove pid s = (.ok old, r') ↔ r.subscription pid s = some old ∧ r' = r.drop pid s := by
  unfold remove
  cases r.subscription pid s with
  | none => simp
  | some _ => simp [eq_comm]

/-! ### Other records -/

@[simp] theorem subscriptionsOf_destroyClient (r : Registry) (cs : Channels) (pid : Pid)
    (s : SensorId) : (r.destroyClient cs pid).2.1.subscriptionsOf s = r.subscriptionsOf s := by
  unfold destroyClient destroyChannel
  cases r.channels.get? pid <;> rfl

@[simp] theorem subscriptionsOf_releaseIfCurrent (r : Registry) (cs : Channels) (id : ChannelId)
    (s : SensorId) : (r.releaseIfCurrent cs id).2.1.subscriptionsOf s = r.subscriptionsOf s := by
  unfold releaseIfCurrent
  split
  · rfl
  · split_ifs <;> rfl

/-! ### Changes undone -/

/-- Records that differ at most in how often subscribers have changed. -/
structure Restored (r r' : Registry) : Prop where
  subscriptionsOf : ∀ s, r'.subscriptionsOf s = r.subscriptionsOf s
  channels : r'.channels = r.channels
  apps : r'.apps = r.apps
  tokens : r'.tokens = r.tokens
  listeners : r'.listeners = r.listeners
  lastEvents : r'.lastEvents = r.lastEvents

theorem Restored.subscription {r r' : Registry} (h : Restored r r') (pid : Pid) (s : SensorId) :
    r'.subscription pid s = r.subscription pid s := by
  rw [Registry.subscription, Registry.subscription, h.subscriptionsOf]

/-- A replaced subscription is put back. -/
theorem restored_put {r : Registry} {pid : Pid} {s : SensorId} {old : Request}
    (h : r.subscription pid s = some old) (request : Request) :
    Restored r ((r.put pid s request).put pid s old) := by
  refine ⟨fun s' => ?_, rfl, rfl, rfl, rfl, rfl⟩
  rw [subscriptionsOf_put, subscriptionsOf_put, subscriptionsOf_put, if_pos rfl]
  split_ifs with hs
  · rw [hs]
    exact Table.insert_insert_of_get? h request
  · rfl

/-- A new subscription is taken away again. -/
theorem restored_drop {r : Registry} {pid : Pid} {s : SensorId}
    (h : r.subscription pid s = none) (request : Request) :
    Restored r ((r.put pid s request).drop pid s) := by
  refine ⟨fun s' => ?_, rfl, rfl, rfl, rfl, rfl⟩
  rw [subscriptionsOf_drop, subscriptionsOf_put, subscriptionsOf_put, if_pos rfl]
  split_ifs with hs
  · rw [hs]
    exact Table.erase_insert_of_get? h request
  · rfl

/-- A subscription that was dropped is put back. -/
theorem restored_put_drop {r : Registry} {pid : Pid} {s : SensorId} {old : Request}
    (h : r.subscription pid s = some old) : Restored r ((r.drop pid s).put pid s old) := by
  refine ⟨fun s' => ?_, rfl, rfl, rfl, rfl, rfl⟩
  rw [subscriptionsOf_put, subscriptionsOf_drop, subscriptionsOf_drop, if_pos rfl]
  split_ifs with hs
  · rw [hs]
    exact Table.insert_erase_of_get? h
  · rfl

end Registry
end SensorBroker
