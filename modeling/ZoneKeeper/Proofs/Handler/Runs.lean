import ZoneKeeper.Proofs.Dispatcher.Directory
import ZoneKeeper.Proofs.Handler.Deletions

/-!
# Requests to the handler one after the other

In an orderly directory a request that is granted settles what is held at one place, that of the
file of its zone, and leaves every other place as it is.  What is held anywhere after several
requests is therefore a fold over them.  Whether they are granted depends on the directories and on
what is held at the places that they are about.
-/

namespace ZoneKeeper

/-- The name of the file of a resource.  There is none for a record, or for a zone whose address is
not well-formed. -/
def Resource.fileName? (resource : Resource) : Option String :=
  match resource.kind with
  | .zone => (Handler.fileName resource).toOption
  | .record => none

namespace Resource

variable {resource : Resource} {name : String}

theorem fileName?_of_record (ofRecord : resource.kind = .record) : resource.fileName? = none := by
  rw [fileName?, ofRecord]

theorem fileName?_eq_some_iff :
    resource.fileName? = some name ↔
      resource.kind = .zone ∧ Handler.fileName resource = .ok name := by
  unfold fileName?
  cases resource.kind with
  | record => simp
  | zone => cases Handler.fileName resource <;> simp [Except.toOption]

/-- Resources with one key have one file. -/
theorem fileName?_eq_of_key_eq {other : Resource} (same : resource.key = other.key) :
    resource.fileName? = other.fileName? := by
  have unnamed {unplaced : Resource} {fault : KeyError} (pathless : unplaced.path = .error fault) :
      unplaced.fileName? = none := by
    have failed : Handler.fileName unplaced = .error fault := by
      simp [Handler.fileName, pathless, bind, Except.bind]
    cases named : unplaced.fileName? with
    | none => rfl
    | some name =>
        have found := (fileName?_eq_some_iff.1 named).2
        rw [failed] at found
        contradiction
  unfold key at same
  cases pathed : resource.path with
  | error fault =>
      cases pathedToo : other.path with
      | error faultToo => rw [unnamed pathed, unnamed pathedToo]
      | ok path => simp [pathed, pathedToo, Except.map] at same
  | ok path =>
      cases pathedToo : other.path with
      | error faultToo => simp [pathed, pathedToo, Except.map] at same
      | ok pathToo =>
          simp only [pathed, pathedToo, Except.map, Except.ok.injEq, ResourceKey.mk.injEq] at same
          unfold fileName? Handler.fileName
          rw [pathed, pathedToo, same.1, same.2]

end Resource

namespace Handler

/-- What a request leaves of the file of its zone. -/
def leftBy (handler : Handler) (request : Operation × Resource) : Option Node :=
  match request.1 with
  | .created => handler.material request.2
  | .deleted => none

/-- What a request makes of what is held at a place. -/
def nodeAfter (handler : Handler) (directory goal : Place) (held : Option Node)
    (request : Operation × Resource) : Option Node :=
  if request.2.fileName?.map (fun name => directory ++ [name]) = some goal then
    handler.leftBy request
  else held

/-- The requests are granted one after the other. -/
def Grants (handler : Handler) (requests : List (Operation × Resource)) (before after : Files) :
    Prop :=
  Performs handler.handle (requests.map HandlerCall.granted) before after

/-- The directory for zone files is there, and no temporary file is left in it. -/
structure IsOrderly (handler : Handler) (files : Files) : Prop where
  ready : handler.IsReady files
  tidy : ∀ zone name, fileName zone = .ok name →
    files.node? (handler.place files ++ [temporary name]) = none

/-- What requests that were granted have made of the files. -/
structure Granted (handler : Handler) (requests : List (Operation × Resource))
    (before after : Files) : Prop where
  same : before.SameDirectories after
  nodes : ∀ goal, after.node? goal =
    requests.foldl (handler.nodeAfter (handler.place before) goal) (before.node? goal)
  rendered : ∀ request ∈ requests, request.1 = .created → request.2.kind = .zone →
    ∃ text, handler.template.render request.2.zoneName = .ok text

variable {handler : Handler} {before after other : Files} {request : Operation × Resource}
  {requests others : List (Operation × Resource)} {directory goal : Place} {name : String}

theorem nodeAfter_of_ne (held : Option Node)
    (elsewhere : ∀ name, request.2.fileName? = some name → directory ++ [name] ≠ goal) :
    handler.nodeAfter directory goal held request = held := by
  unfold nodeAfter
  rw [if_neg]
  intro there
  obtain ⟨name, named, same⟩ := Option.map_eq_some_iff.1 there
  exact elsewhere name named same

theorem nodeAfter_of_fileName? (held : Option Node) (named : request.2.fileName? = some name) :
    handler.nodeAfter directory (directory ++ [name]) held request = handler.leftBy request := by
  simp [nodeAfter, named]

/-- Requests about other files do not matter. -/
theorem foldl_nodeAfter_of_ne (held : Option Node)
    (elsewhere : ∀ request ∈ requests, ∀ name, request.2.fileName? = some name →
      directory ++ [name] ≠ goal) :
    requests.foldl (handler.nodeAfter directory goal) held = held := by
  induction requests with
  | nil => rfl
  | cons request requests ih =>
      rw [List.foldl_cons, nodeAfter_of_ne held (elsewhere request List.mem_cons_self)]
      exact ih fun later present => elsewhere later (List.mem_cons_of_mem request present)

theorem foldl_nodeAfter_of_fileName?_ne (held : Option Node)
    (elsewhere : ∀ request ∈ requests, request.2.fileName? ≠ some name) :
    requests.foldl (handler.nodeAfter directory (directory ++ [name])) held = held := by
  apply foldl_nodeAfter_of_ne
  intro request present other named same
  obtain rfl : other = name := List.singleton_inj.1 (List.append_cancel_left same)
  exact elsewhere request present named

theorem grants_cons_iff :
    handler.Grants (request :: requests) before after ↔
      (handler.handle request.1 request.2 before).1.result = .ok () ∧
        handler.Grants requests (handler.handle request.1 request.2 before).2 after := by
  unfold Grants
  rw [List.map_cons, Performs, eq_comm]
  rfl

theorem grants_append_iff :
    handler.Grants (requests ++ others) before after ↔
      ∃ middle, handler.Grants requests before middle ∧ handler.Grants others middle after := by
  unfold Grants
  rw [List.map_append, performs_append_iff]

theorem Granted.sameDirectories {final : Files} (granted : handler.Granted requests before after)
    (grantedToo : handler.Granted others other final) (same : before.SameDirectories other) :
    after.SameDirectories final :=
  granted.same.symm.trans (same.trans grantedToo.same)

theorem Granted.nil (handler : Handler) (files : Files) : handler.Granted [] files files where
  same := .refl files
  nodes := fun _ => rfl
  rendered := by simp

theorem Granted.cons {middle : Files} (first : handler.Granted [request] before middle)
    (rest : handler.Granted requests middle after) :
    handler.Granted (request :: requests) before after where
  same := first.same.trans rest.same
  nodes := by
    intro goal
    rw [rest.nodes, first.nodes, place_eq first.same]
    rfl
  rendered := by
    intro later present
    rcases List.mem_cons.1 present with rfl | among
    · exact first.rendered later List.mem_cons_self
    · exact rest.rendered later among

theorem granted_of_record (ofRecord : request.2.kind = .record) (files : Files) :
    handler.Granted [request] files files where
  same := .refl files
  nodes := by
    intro goal
    exact (nodeAfter_of_ne _ (by simp [Resource.fileName?_of_record ofRecord])).symm
  rendered := by simp [ofRecord]

theorem granted_of_settled (named : request.2.fileName? = some name)
    (same : before.SameDirectories after)
    (target : after.node? (handler.place before ++ [name]) = handler.leftBy request)
    (unchanged : ∀ goal, goal ≠ handler.place before ++ [name] →
      after.node? goal = before.node? goal)
    (rendered : request.1 = .created →
      ∃ text, handler.template.render request.2.zoneName = .ok text) :
    handler.Granted [request] before after where
  same := same
  nodes := by
    intro goal
    rw [List.foldl_cons, List.foldl_nil]
    by_cases isTarget : goal = handler.place before ++ [name]
    · rw [isTarget, target, nodeAfter_of_fileName? _ named]
    · rw [unchanged goal isTarget, nodeAfter_of_ne]
      intro other namedToo
      obtain rfl : name = other := Option.some.inj (named.symm.trans namedToo)
      exact Ne.symm isTarget
  rendered := by
    intro other present creating _
    rw [List.mem_singleton] at present
    subst present
    exact rendered creating

theorem granted_of_wrote {text : String} (orderly : handler.IsOrderly before)
    (named : request.2.fileName? = some name) (creating : request.1 = .created)
    (rendered : handler.template.render request.2.zoneName = .ok text)
    (wrote : handler.Wrote name text.toUTF8 before after) :
    handler.Granted [request] before after := by
  apply granted_of_settled named wrote.same
  · rw [wrote.target]
    simp [leftBy, creating, material, rendered, Except.toOption]
  · intro goal notTarget
    by_cases isBeside : goal = handler.place before ++ [temporary name]
    · rcases wrote.beside with gone | kept
      · rw [isBeside, gone, orderly.tidy _ _ (Resource.fileName?_eq_some_iff.1 named).2]
      · rw [isBeside, kept]
    · exact wrote.others goal notTarget isBeside
  · exact fun _ => ⟨text, rendered⟩

theorem granted_of_removed (ready : handler.IsReady before)
    (named : request.2.fileName? = some name) (deleting : request.1 = .deleted)
    (removed : handler.Removed name before after) : handler.Granted [request] before after := by
  apply granted_of_settled named removed.same
  · rw [removed.target ready]
    simp [leftBy, deleting]
  · exact removed.others
  · simp [deleting]

/-- A single request. -/
theorem granted_of_handle (orderly : handler.IsOrderly before)
    (succeeded : (handler.handle request.1 request.2 before).1.result = .ok ()) :
    handler.Granted [request] before (handler.handle request.1 request.2 before).2 := by
  obtain ⟨operation, resource⟩ := request
  cases kindEq : resource.kind with
  | record =>
      have unchanged : (handler.handle operation resource before).2 = before := by
        cases operation <;> simp [handle, created, deleted, kindEq]
      rw [unchanged]
      exact granted_of_record kindEq before
  | zone =>
      cases operation with
      | created =>
          obtain ⟨address, text, here, formed, rendered, wrote⟩ :=
            exists_wrote_of_created kindEq succeeded
          have named := fileName_of_isAt here formed
          exact granted_of_wrote orderly (Resource.fileName?_eq_some_iff.2 ⟨kindEq, named⟩) rfl
            rendered wrote
      | deleted =>
          obtain ⟨address, here, formed, removed⟩ := exists_removed_of_deleted kindEq succeeded
          have named := fileName_of_isAt here formed
          exact granted_of_removed orderly.ready
            (Resource.fileName?_eq_some_iff.2 ⟨kindEq, named⟩) rfl removed

/-- No request leaves a temporary file behind, for no zone file has the name of one. -/
theorem Granted.isOrderly (granted : handler.Granted requests before after)
    (orderly : handler.IsOrderly before) : handler.IsOrderly after where
  ready := (isReady_iff granted.same).2 orderly.ready
  tidy := by
    intro zone name named
    rw [place_eq granted.same, granted.nodes, foldl_nodeAfter_of_ne]
    · exact orderly.tidy zone name named
    · intro request _ other namedToo same
      obtain ⟨address, -, -, rfl⟩ :=
        fileName_eq_ok_iff.1 (Resource.fileName?_eq_some_iff.1 namedToo).2
      have nameEq := List.singleton_inj.1 (List.append_cancel_left same)
      exact Address.fileName_ne_temporary address name nameEq

theorem granted_of_grants (orderly : handler.IsOrderly before)
    (grants : handler.Grants requests before after) : handler.Granted requests before after := by
  induction requests generalizing before with
  | nil =>
      obtain rfl : after = before := grants
      exact .nil handler _
  | cons request requests ih =>
      obtain ⟨succeeded, rest⟩ := grants_cons_iff.1 grants
      have first := granted_of_handle orderly succeeded
      exact first.cons (ih (first.isOrderly orderly) rest)

/-- A request is granted in every tree with the same directories, unless it was only granted because
the file was up to date. -/
theorem handle_elsewhere (ready : handler.IsReady before) (same : before.SameDirectories other)
    (upToDate : request.1 = .created → ∀ name, request.2.fileName? = some name →
      before.node? (handler.place before ++ [name]) = handler.material request.2 →
        other.node? (handler.place before ++ [name]) = handler.material request.2)
    (succeeded : (handler.handle request.1 request.2 before).1.result = .ok ()) :
    (handler.handle request.1 request.2 other).1.result = .ok () := by
  obtain ⟨operation, resource⟩ := request
  cases kindEq : resource.kind with
  | record => cases operation <;> simp [handle, created, deleted, kindEq, Reply.noting]
  | zone =>
      cases operation with
      | created =>
          obtain ⟨address, text, here, formed, rendered, -⟩ :=
            exists_wrote_of_created kindEq succeeded
          simp only [handle, created, kindEq] at succeeded ⊢
          have named := fileName_of_isAt here formed
          have heldStill :=
            upToDate rfl address.fileName (Resource.fileName?_eq_some_iff.2 ⟨kindEq, named⟩)
          simp only [material, rendered, Except.toOption, Option.map_some] at heldStill
          exact createZone_elsewhere same named rendered heldStill succeeded
      | deleted =>
          obtain ⟨address, here, formed, -⟩ := exists_removed_of_deleted kindEq succeeded
          simp only [handle, deleted, kindEq] at succeeded ⊢
          exact deleteZone_elsewhere ready same (fileName_of_isAt here formed) succeeded

/-- Requests are granted in every tree that has the same directories and holds the same files as far
as the requests are about them. -/
theorem Grants.elsewhere (grants : handler.Grants requests before after)
    (orderly : handler.IsOrderly before) (orderlyToo : handler.IsOrderly other)
    (same : before.SameDirectories other)
    (agree : ∀ request ∈ requests, ∀ name, request.2.fileName? = some name →
      other.node? (handler.place before ++ [name]) =
        before.node? (handler.place before ++ [name])) :
    ∃ final, handler.Grants requests other final := by
  induction requests generalizing before other with
  | nil => exact ⟨other, rfl⟩
  | cons request requests ih =>
      obtain ⟨succeeded, rest⟩ := grants_cons_iff.1 grants
      have succeededToo : (handler.handle request.1 request.2 other).1.result = .ok () := by
        apply handle_elsewhere orderly.ready same _ succeeded
        intro _ name named held
        rw [agree request List.mem_cons_self name named, held]
      have first := granted_of_handle orderly succeeded
      have firstToo := granted_of_handle orderlyToo succeededToo
      obtain ⟨final, restToo⟩ := ih rest (first.isOrderly orderly) (firstToo.isOrderly orderlyToo)
        (first.sameDirectories firstToo same) (by
          intro later present name named
          rw [place_eq first.same, first.nodes, firstToo.nodes, place_eq same,
            agree later (List.mem_cons_of_mem request present) name named])
      exact ⟨final, grants_cons_iff.2 ⟨succeededToo, restToo⟩⟩

theorem IsOrderly.of_alike (orderly : handler.IsOrderly before) (alike : before.Alike other) :
    handler.IsOrderly other where
  ready := (isReady_iff alike.same).2 orderly.ready
  tidy := by
    intro zone name named
    rw [alike.nodes, place_eq alike.same]
    exact orderly.tidy zone name named

/-- Trees that hold the same hold the same after requests, if these are granted in one of them. -/
theorem Grants.of_alike (grants : handler.Grants requests before after)
    (orderly : handler.IsOrderly before) (alike : before.Alike other) :
    ∃ final, handler.Grants requests other final ∧ after.Alike final := by
  have orderlyToo := orderly.of_alike alike
  obtain ⟨final, grantsToo⟩ :=
    grants.elsewhere orderly orderlyToo alike.same fun _ _ _ _ => alike.nodes _
  have granted := granted_of_grants orderly grants
  have grantedToo := granted_of_grants orderlyToo grantsToo
  refine ⟨final, grantsToo, (granted.sameDirectories grantedToo alike.same).current, fun goal => ?_⟩
  rw [grantedToo.nodes, granted.nodes, place_eq alike.same, alike.nodes]

end Handler

end ZoneKeeper
