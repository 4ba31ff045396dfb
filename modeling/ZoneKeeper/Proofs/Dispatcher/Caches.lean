import ZoneKeeper.Proofs.Dispatcher.Requests
import ZoneKeeper.Store

/-!
# Caches beside handlers

A backend may be put together from caches, which answer lookups and listings, and handlers, which
have a state of their own.  What a pass makes of the state of the handlers can then be read off its
calls: each is answered in the state that the calls before it have left.
-/

namespace ZoneKeeper

/-- What answers lookups and listings.  An answer may change what is answered later on. -/
structure Caches (τ : Type) where
  lookup : Kind → String → τ → Except CacheError (Option Resource) × τ
  list : Kind → String → τ → Except CacheError (List Resource) × τ
  hasSynced : Kind → τ → Bool

/-- What answers requests to the handlers. -/
abbrev Handling (φ : Type) :=
  Operation → Resource → φ → Reply × φ

def Caches.beside {τ φ : Type} (caches : Caches τ) (handle : Handling φ) : Backend (τ × φ) where
  lookup kind path world :=
    let (answer, cached) := caches.lookup kind path world.1
    (answer, (cached, world.2))
  list kind space world :=
    let (answer, cached) := caches.list kind space world.1
    (answer, (cached, world.2))
  handle operation resource world :=
    let (reply, handled) := handle operation resource world.2
    (reply, (world.1, handled))
  hasSynced kind world := caches.hasSynced kind world.1

/-- The calls lead from a state of the handlers to another one. -/
def Performs {φ : Type} (handle : Handling φ) : List HandlerCall → φ → φ → Prop
  | [], before, after => after = before
  | call :: calls, before, after =>
      call.result = (handle call.operation call.resource before).1.result ∧
        Performs handle calls (handle call.operation call.resource before).2 after

section Performs

variable {φ : Type} {handle : Handling φ} {before after other : φ}

theorem performs_append_iff {first second : List HandlerCall} :
    Performs handle (first ++ second) before after ↔
      ∃ middle, Performs handle first before middle ∧ Performs handle second middle after := by
  induction first generalizing before with
  | nil =>
      constructor
      · intro performs
        exact ⟨before, rfl, performs⟩
      · rintro ⟨middle, rfl, performs⟩
        exact performs
  | cons call first ih =>
      rw [List.cons_append, Performs, ih]
      constructor
      · rintro ⟨answered, middle, early, late⟩
        exact ⟨middle, ⟨answered, early⟩, late⟩
      · rintro ⟨middle, ⟨answered, early⟩, late⟩
        exact ⟨answered, middle, early, late⟩

theorem performs_singleton_iff {call : HandlerCall} :
    Performs handle [call] before after ↔
      call.result = (handle call.operation call.resource before).1.result ∧
        after = (handle call.operation call.resource before).2 :=
  Iff.rfl

theorem Performs.unique {calls : List HandlerCall} (performs : Performs handle calls before after)
    (performsToo : Performs handle calls before other) : after = other := by
  induction calls generalizing before with
  | nil => exact performs.trans performsToo.symm
  | cons call calls ih => exact ih performs.2 performsToo.2

end Performs

namespace Dispatcher

variable {τ φ : Type} {caches : Caches τ} {handle : Handling φ} {key : ResourceKey}

/-- If requests would all be granted, the attempts at them get to all of them. -/
theorem Attempts.eq_of_grants {requests : List (Operation × Resource)} {calls : List HandlerCall}
    {before after other : φ} (attempts : Attempts requests calls)
    (performs : Performs handle calls before after)
    (grants : Performs handle (requests.map HandlerCall.granted) before other) :
    calls = requests.map HandlerCall.granted := by
  induction attempts generalizing before with
  | done => rfl
  | fail operation resource error requests =>
      have failed : (.error error : Except HandlerError Unit) = .ok () :=
        performs.1.trans grants.1.symm
      contradiction
  | next operation resource _ ih => exact congrArg (List.cons _) (ih performs.2 grants.2)

theorem performs_of_acts {before after : Dispatcher (τ × φ)}
    (acts : Acts (caches.beside handle) key before after) :
    ∃ calls, after.calls = before.calls ++ calls ∧
      Performs handle calls before.world.2 after.world.2 := by
  induction acts with
  | refl => exact ⟨[], by simp, rfl⟩
  | @tail middle _ _ act ih =>
      obtain ⟨calls, called, performs⟩ := ih
      cases act with
      | note | forget | enqueue | dropTombstone | lookup | list | measure =>
          exact ⟨calls, called, performs⟩
      | call operation resource =>
          have answered : Performs handle
              [⟨operation, resource, (handle operation resource middle.world.2).1.result⟩]
              middle.world.2 (handle operation resource middle.world.2).2 :=
            performs_singleton_iff.2 ⟨rfl, rfl⟩
          refine ⟨calls ++ [_], ?_, performs_append_iff.2 ⟨_, performs, answered⟩⟩
          rw [calls_call, called, List.append_assoc]
          rfl

end Dispatcher

end ZoneKeeper
