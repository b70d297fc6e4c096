import Chronicle.Session.Registry
import Mathlib.Data.List.Induction

/-!
# What a registry is used for

Producers push messages into a registry and ask it for sessions, in any order and for any contexts.
All that is left of this is one session for each context, in the order of first use, with the
messages that were pushed for it: `Registry.sessions_useAll`.
-/
namespace Chronicle

namespace Registry

/-- A new registry has a default context and no sessions. -/
theorem eq_of_create {defaultContext : String} {r : Registry}
    (hr : create defaultContext = .ok r) :
    defaultContext ≠ "" ∧ r = { defaultContext := defaultContext } := by
  by_cases h : defaultContext = ""
  · simp [create, h] at hr
  · rw [create, if_neg h] at hr
    cases hr
    exact ⟨h, rfl⟩

/-- One use of a registry. -/
inductive Use where
  | push (contextId : Option String) (m : Message)
  /-- Asks for the session of a context, which is made if there is none. -/
  | getOrCreate (contextId : Option String)
  deriving DecidableEq, Repr, Inhabited

/-- The context that is used, as the producer names it. -/
def Use.contextId : Use → Option String
  | .push contextId _ => contextId
  | .getOrCreate contextId => contextId

/-- The messages that a use brings. -/
def Use.messages : Use → List Message
  | .push _ m => [m]
  | .getOrCreate _ => []

/-- The registry after a use. -/
def use (r : Registry) : Use → Registry
  | .push contextId m => r.push contextId m
  | .getOrCreate contextId => r.register contextId

/-- The registry after uses, one after another. -/
def useAll (r : Registry) (uses : List Use) : Registry :=
  uses.foldl use r

/-- The contexts that are used, in the order of first use. -/
def contexts (r : Registry) (uses : List Use) : List String :=
  (uses.map fun u => r.resolve u.contextId).eraseDups

/-- The messages that are pushed for a context, in order. -/
def messagesOf (r : Registry) (id : String) (uses : List Use) : List Message :=
  (uses.filter fun u => r.resolve u.contextId = id).flatMap (·.messages)

/-- Sessions that have not been replayed, with these logs. -/
def unread (ids : List String) (log : String → List Message) : List Session :=
  ids.map fun id => { contextId := id, log := log id }

variable {r : Registry} {ids : List String} {log : String → List Message}

/-! ### One use -/

/-- A context has a session just if it has been used. -/
private theorem contains_iff (hr : r.sessions = unread ids log) (id : String) :
    r.contains id = true ↔ id ∈ ids := by
  simp [contains, find?, hr, unread, List.find?_isSome]

/-- A context that is registered comes last, unless it is there already. -/
private theorem sessions_register (hr : r.sessions = unread ids log)
    (hlog : ∀ id ∉ ids, log id = []) (contextId : Option String) :
    (r.register contextId).sessions
      = unread (if r.resolve contextId ∈ ids then ids else ids ++ [r.resolve contextId]) log := by
  by_cases hmem : r.resolve contextId ∈ ids
  · rw [register, if_pos ((contains_iff hr _).2 hmem), if_pos hmem, hr]
  · have hnew : ¬r.contains (r.resolve contextId) = true := mt (contains_iff hr _).1 hmem
    simp [register, if_neg hnew, if_neg hmem, hr, unread, hlog _ hmem]

/-- One more use adds its context, if it is new, and its messages. -/
private theorem sessions_use (hr : r.sessions = unread ids log) (hlog : ∀ id ∉ ids, log id = [])
    (u : Use) :
    (r.use u).sessions
      = unread (if r.resolve u.contextId ∈ ids then ids else ids ++ [r.resolve u.contextId])
        fun id => log id ++ if r.resolve u.contextId = id then u.messages else [] := by
  have hregister := sessions_register hr hlog u.contextId
  cases u with
  | push contextId m =>
    simp only [use, push, Use.contextId] at hregister ⊢
    rw [hregister, unread, List.map_map]
    refine List.map_congr_left fun id _ => ?_
    -- only the session of the context that is pushed for grows
    by_cases heq : r.resolve contextId = id
    · simp [heq, Session.push, Use.messages]
    · simp [heq, Ne.symm heq]
  | getOrCreate contextId =>
    simp only [Use.messages, ite_self, List.append_nil]
    exact hregister

/-- Registering a context does not change the default. -/
@[simp] theorem defaultContext_register (r : Registry) (contextId : Option String) :
    (r.register contextId).defaultContext = r.defaultContext := by
  simp only [register]
  split <;> rfl

/-- Nor does any use. -/
private theorem defaultContext_use (r : Registry) (u : Use) :
    (r.use u).defaultContext = r.defaultContext := by
  cases u <;> simp [use, push]

/-! ### All uses -/

/-- The last use comes after all the others. -/
theorem useAll_snoc (r : Registry) (uses : List Use) (u : Use) :
    r.useAll (uses ++ [u]) = (r.useAll uses).use u :=
  List.foldl_append

/-- No number of uses changes the default. -/
theorem defaultContext_useAll (r : Registry) (uses : List Use) :
    (r.useAll uses).defaultContext = r.defaultContext := by
  induction uses using List.reverseRecOn with
  | nil => rfl
  | append_singleton uses u ih => rw [useAll_snoc, defaultContext_use, ih]

/-- One more use adds its context if it is new. -/
private theorem contexts_snoc (r : Registry) (uses : List Use) (u : Use) :
    r.contexts (uses ++ [u])
      = if r.resolve u.contextId ∈ r.contexts uses then r.contexts uses
        else r.contexts uses ++ [r.resolve u.contextId] := by
  by_cases hmem : r.resolve u.contextId ∈ r.contexts uses <;>
    simp_all [contexts, List.eraseDups_append, List.removeAll, List.eraseDups_cons]

/-- One more use adds its messages to those of its context. -/
theorem messagesOf_snoc (r : Registry) (id : String) (uses : List Use) (u : Use) :
    r.messagesOf id (uses ++ [u])
      = r.messagesOf id uses ++ if r.resolve u.contextId = id then u.messages else [] := by
  by_cases heq : r.resolve u.contextId = id <;> simp [messagesOf, heq]

/-- No messages are pushed for a context that is not used. -/
theorem messagesOf_of_not_mem {id : String} {uses : List Use} (hid : id ∉ r.contexts uses) :
    r.messagesOf id uses = [] := by
  have hnone : uses.filter (fun u => r.resolve u.contextId = id) = [] := by
    rw [List.filter_eq_nil_iff]
    intro u hu heq
    refine hid ?_
    rw [contexts, List.mem_eraseDups, List.mem_map]
    exact ⟨u, hu, of_decide_eq_true heq⟩
  rw [messagesOf, hnone, List.flatMap_nil]

/-- A registry keeps one session for each context. -/
theorem sessions_useAll (hr : r.sessions = []) (uses : List Use) :
    (r.useAll uses).sessions = unread (r.contexts uses) fun id => r.messagesOf id uses := by
  induction uses using List.reverseRecOn with
  | nil => exact hr
  | append_singleton uses u ih =>
    have hresolve : (r.useAll uses).resolve u.contextId = r.resolve u.contextId := by
      simp only [resolve, defaultContext_useAll]
    rw [useAll_snoc, sessions_use ih fun id hid => messagesOf_of_not_mem hid, hresolve,
      contexts_snoc]
    simp only [messagesOf_snoc]

/-- Each context is there once. -/
theorem nodup_contexts (r : Registry) (uses : List Use) : (r.contexts uses).Nodup := by
  induction uses using List.reverseRecOn with
  | nil => exact List.nodup_nil
  | append_singleton uses u ih =>
    rw [contexts_snoc]
    split
    · exact ih
    · rename_i hmem
      exact (List.perm_append_singleton _ _).nodup_iff.2 (List.nodup_cons.2 ⟨hmem, ih⟩)

end Registry

end Chronicle
