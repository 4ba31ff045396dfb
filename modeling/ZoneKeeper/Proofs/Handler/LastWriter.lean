import ZoneKeeper.Proofs.Handler.Runs

/-!
# The last writer wins

If all calls of the handler succeed, every zone file that they touch is as the last of them says: it
has the text of the zone that was last created under its name, or it is gone if that was deleted
again.  Nothing else is changed, and no temporary file remains.  It follows that a call may be
repeated, that calls for different files may be exchanged, that an update of an object is as good
as its creation, and that files which are up to date might as well be written anew.
-/

namespace ZoneKeeper

/-- A call of the handler for a change of an object. -/
inductive Errand where
  | created (resource : Resource)
  | deleted (resource : Resource)
  | updated (old new : Resource)

namespace Handler

/-- As `created`, but the file of a zone is written whatever it holds. -/
def recreated (handler : Handler) (resource : Resource) (files : Files) : Reply × Files :=
  match resource.kind with
  | .zone => handler.rewriteZone resource files
  | .record => handler.created resource files

end Handler

namespace Errand

def run (handler : Handler) : Errand → Files → Reply × Files
  | .created resource, files => handler.created resource files
  | .deleted resource, files => handler.deleted resource files
  | .updated old new, files => handler.updated old new files

/-- What is left if every zone file is written whatever it holds. -/
def rewrite (handler : Handler) : Errand → Files → Files
  | .created resource, files => (handler.recreated resource files).2
  | .deleted resource, files => (handler.deleted resource files).2
  | .updated old new, files =>
      match handler.deleted old files with
      | (⟨.error _, _⟩, files) => files
      | (⟨.ok (), _⟩, files) => (handler.recreated new files).2

/-- An update is a deletion and a creation. -/
def requests : Errand → List (Operation × Resource)
  | .created resource => [(.created, resource)]
  | .deleted resource => [(.deleted, resource)]
  | .updated old new => [(.deleted, old), (.created, new)]

/-- There is no file that both are about. -/
def IsApartFrom (first second : Errand) : Prop :=
  ∀ request ∈ first.requests, ∀ other ∈ second.requests, ∀ name,
    request.2.fileName? = some name → other.2.fileName? ≠ some name

end Errand

namespace Handler

/-- The errands are run one after the other, and all of them succeed. -/
def Succeed (handler : Handler) : List Errand → Files → Files → Prop
  | [], before, after => after = before
  | errand :: errands, before, after =>
      (errand.run handler before).1.result = .ok () ∧
        handler.Succeed errands (errand.run handler before).2 after

variable {handler : Handler} {before after : Files} {errand : Errand} {errands : List Errand}
  {request : Operation × Resource} {requests others : List (Operation × Resource)}
  {directory goal : Place} {name : String}

/-- Unless both are records, the old object is deleted and then the new one created. -/
theorem updated_eq {old new : Resource}
    (notRecords : ¬ (old.kind = .record ∧ new.kind = .record)) :
    handler.updated old new before =
      match handler.deleted old before with
      | (⟨.error error, notices⟩, files) => (⟨.error error, notices⟩, files)
      | (⟨.ok (), notices⟩, files) =>
          ({ (handler.created new files).1 with
            notices := notices ++ (handler.created new files).1.notices },
          (handler.created new files).2) := by
  unfold updated
  split
  · rename_i oldRecord newRecord
    exact absurd ⟨oldRecord, newRecord⟩ notRecords
  · rfl

theorem grants_requests_iff :
    handler.Grants errand.requests before after ↔
      (errand.run handler before).1.result = .ok () ∧
        after = (errand.run handler before).2 := by
  cases errand with
  | created resource => exact grants_cons_iff
  | deleted resource => exact grants_cons_iff
  | updated old new =>
      rw [Errand.requests, grants_cons_iff, grants_cons_iff]
      change _ ∧ _ ∧ _ = _ ↔ _
      simp only [handle, Errand.run]
      by_cases records : old.kind = .record ∧ new.kind = .record
      · simp [updated, created, deleted, records, Reply.noting]
      · rw [updated_eq records]
        obtain ⟨⟨result, notices⟩, middle⟩ := handler.deleted old before
        cases result with
        | error fault => simp
        | ok => simp

theorem succeed_iff :
    handler.Succeed errands before after ↔
      handler.Grants (errands.flatMap Errand.requests) before after := by
  induction errands generalizing before with
  | nil => exact Iff.rfl
  | cons errand errands ih =>
      rw [List.flatMap_cons, grants_append_iff, Succeed, ih]
      constructor
      · rintro ⟨succeeded, rest⟩
        exact ⟨_, grants_requests_iff.2 ⟨succeeded, rfl⟩, rest⟩
      · rintro ⟨middle, first, rest⟩
        obtain ⟨succeeded, rfl⟩ := grants_requests_iff.1 first
        exact ⟨succeeded, rest⟩

/-- Requests either settle what is held at a place or leave it as it is. -/
theorem foldl_nodeAfter_eq_or (handler : Handler) (requests : List (Operation × Resource))
    (directory goal : Place) :
    (∀ held, requests.foldl (handler.nodeAfter directory goal) held = held) ∨
      ∃ node, ∀ held, requests.foldl (handler.nodeAfter directory goal) held = node := by
  induction requests with
  | nil => exact Or.inl fun _ => rfl
  | cons request requests ih =>
      rcases ih with kept | ⟨node, settled⟩
      · by_cases hit : request.2.fileName?.map (fun name => directory ++ [name]) = some goal
        · refine Or.inr ⟨handler.leftBy request, fun held => ?_⟩
          rw [List.foldl_cons, kept, nodeAfter, if_pos hit]
        · refine Or.inl fun held => ?_
          rw [List.foldl_cons, kept, nodeAfter, if_neg hit]
      · exact Or.inr ⟨node, fun held => settled _⟩

theorem foldl_nodeAfter_last {early late : List (Operation × Resource)} (held : Option Node)
    (named : request.2.fileName? = some name)
    (last : ∀ later ∈ late, later.2.fileName? ≠ some name) :
    (early ++ request :: late).foldl (handler.nodeAfter directory (directory ++ [name])) held =
      handler.leftBy request := by
  rw [List.foldl_append, List.foldl_cons, nodeAfter_of_fileName? _ named,
    foldl_nodeAfter_of_fileName?_ne _ last]

/-- What the last request about a file says holds of it, and nothing else is changed. -/
structure LastWins (handler : Handler) (requests : List (Operation × Resource))
    (before after : Files) : Prop where
  same : before.SameDirectories after
  created : ∀ early zone late name, requests = early ++ (.created, zone) :: late →
    zone.fileName? = some name → (∀ later ∈ late, later.2.fileName? ≠ some name) →
      ∃ text, handler.template.render zone.zoneName = .ok text ∧
        after.node? (handler.place before ++ [name]) = some (.file text.toUTF8)
  deleted : ∀ early zone late name, requests = early ++ (.deleted, zone) :: late →
    zone.fileName? = some name → (∀ later ∈ late, later.2.fileName? ≠ some name) →
      after.node? (handler.place before ++ [name]) = none
  others : ∀ goal, (∀ request ∈ requests, ∀ name, request.2.fileName? = some name →
    handler.place before ++ [name] ≠ goal) → after.node? goal = before.node? goal

theorem Granted.lastWins (granted : handler.Granted requests before after) :
    handler.LastWins requests before after where
  same := granted.same
  created := by
    rintro early zone late name rfl named last
    have ofZone := (Resource.fileName?_eq_some_iff.1 named).1
    obtain ⟨text, rendered⟩ := granted.rendered (.created, zone) (by simp) rfl ofZone
    refine ⟨text, rendered, ?_⟩
    rw [granted.nodes, foldl_nodeAfter_last _ named last]
    simp [leftBy, material, rendered, Except.toOption]
  deleted := by
    rintro early zone late name rfl named last
    rw [granted.nodes, foldl_nodeAfter_last _ named last]
    rfl
  others := by
    intro goal elsewhere
    rw [granted.nodes, foldl_nodeAfter_of_ne _ elsewhere]

/-- Wherever the requests are granted the others are granted as well, and leave the same. -/
def MatchedBy (handler : Handler) (requests others : List (Operation × Resource)) : Prop :=
  ∀ before after, handler.IsOrderly before → handler.Grants requests before after →
    ∃ final, handler.Grants others before final ∧ after.Alike final

theorem matchedBy_of_foldl
    (grantsToo : ∀ before after, handler.IsOrderly before → handler.Grants requests before after →
      ∃ final, handler.Grants others before final)
    (sameNodes : ∀ directory goal held, others.foldl (handler.nodeAfter directory goal) held =
      requests.foldl (handler.nodeAfter directory goal) held) :
    handler.MatchedBy requests others := by
  intro before after orderly grants
  obtain ⟨final, grantsOthers⟩ := grantsToo before after orderly grants
  have granted := granted_of_grants orderly grants
  have grantedOthers := granted_of_grants orderly grantsOthers
  refine ⟨final, grantsOthers, ?_, fun goal => ?_⟩
  · exact (granted.sameDirectories grantedOthers (.refl before)).current
  · rw [grantedOthers.nodes, granted.nodes, sameNodes]

/-- What comes before and after does not matter. -/
theorem MatchedBy.within (matched : handler.MatchedBy requests others)
    (early late : List (Operation × Resource)) :
    handler.MatchedBy (early ++ (requests ++ late)) (early ++ (others ++ late)) := by
  intro before after orderly grants
  obtain ⟨first, begun, rest⟩ := grants_append_iff.1 grants
  obtain ⟨second, middle, ended⟩ := grants_append_iff.1 rest
  have orderlyFirst := (granted_of_grants orderly begun).isOrderly orderly
  have orderlySecond := (granted_of_grants orderlyFirst middle).isOrderly orderlyFirst
  obtain ⟨secondToo, middleToo, alike⟩ := matched first second orderlyFirst middle
  obtain ⟨final, endedToo, alikeFinal⟩ := ended.of_alike orderlySecond alike
  refine ⟨final, ?_, alikeFinal⟩
  exact grants_append_iff.2 ⟨first, begun, grants_append_iff.2 ⟨secondToo, middleToo, endedToo⟩⟩

/-- Requests about different files may be exchanged. -/
theorem matchedBy_swap (apart : ∀ request ∈ requests, ∀ other ∈ others, ∀ name,
      request.2.fileName? = some name → other.2.fileName? ≠ some name) :
    handler.MatchedBy (requests ++ others) (others ++ requests) := by
  apply matchedBy_of_foldl
  · intro before after orderly grants
    obtain ⟨middle, first, second⟩ := grants_append_iff.1 grants
    have granted := granted_of_grants orderly first
    obtain ⟨middleToo, secondToo⟩ :=
      second.elsewhere (granted.isOrderly orderly) orderly granted.same.symm (by
        intro other present name named
        rw [place_eq granted.same, granted.nodes, foldl_nodeAfter_of_fileName?_ne]
        exact fun request among namedToo => apart request among other present name namedToo named)
    have grantedToo := granted_of_grants orderly secondToo
    obtain ⟨final, firstToo⟩ :=
      first.elsewhere orderly (grantedToo.isOrderly orderly) grantedToo.same (by
        intro request present name named
        rw [grantedToo.nodes, foldl_nodeAfter_of_fileName?_ne]
        exact fun other among => apart request present other among name named)
    exact ⟨final, grants_append_iff.2 ⟨middleToo, secondToo, firstToo⟩⟩
  · intro directory goal held
    rw [List.foldl_append, List.foldl_append]
    by_cases hit : ∃ other ∈ others, ∃ name, other.2.fileName? = some name ∧
        directory ++ [name] = goal
    · obtain ⟨other, present, name, named, rfl⟩ := hit
      have untouched : ∀ request ∈ requests, request.2.fileName? ≠ some name :=
        fun request among namedToo => apart request among other present name namedToo named
      rw [foldl_nodeAfter_of_fileName?_ne _ untouched, foldl_nodeAfter_of_fileName?_ne _ untouched]
    · have untouched : ∀ other ∈ others, ∀ name, other.2.fileName? = some name →
          directory ++ [name] ≠ goal :=
        fun other present name named there => hit ⟨other, present, name, named, there⟩
      rw [foldl_nodeAfter_of_ne _ untouched, foldl_nodeAfter_of_ne _ untouched]

/-- A file that is deleted and made again might as well have been made at once. -/
theorem matchedBy_created {old new : Resource} (same : old.fileName? = new.fileName?) :
    handler.MatchedBy [(.deleted, old), (.created, new)] [(.created, new)] := by
  apply matchedBy_of_foldl
  · intro before after orderly grants
    obtain ⟨gone, made⟩ := grants_cons_iff.1 grants
    have deleted := granted_of_handle orderly gone
    have orderlyThen := deleted.isOrderly orderly
    have created := granted_of_grants orderlyThen made
    refine ⟨_, grants_cons_iff.2 ⟨?_, rfl⟩⟩
    apply handle_elsewhere orderlyThen.ready deleted.same.symm _ (grants_cons_iff.1 made).1
    -- Nothing was left of the file, so that it had to be written.
    intro _ name named held
    have ofZone := (Resource.fileName?_eq_some_iff.1 named).1
    obtain ⟨text, rendered⟩ := created.rendered _ List.mem_cons_self rfl ofZone
    rw [place_eq deleted.same, deleted.nodes, List.foldl_cons, List.foldl_nil,
      nodeAfter_of_fileName? _ (same.trans named)] at held
    simp [leftBy, material, rendered, Except.toOption] at held
  · intro directory goal held
    simp only [List.foldl_cons, List.foldl_nil, nodeAfter, same]
    split <;> rfl

/-- An errand may be run again. -/
theorem matchedBy_again (errand : Errand) :
    handler.MatchedBy errand.requests (errand.requests ++ errand.requests) := by
  apply matchedBy_of_foldl
  · intro before after orderly grants
    have granted := granted_of_grants orderly grants
    have orderlyAfter := granted.isOrderly orderly
    suffices again : ∃ final, handler.Grants errand.requests after final by
      obtain ⟨final, grantsAgain⟩ := again
      exact ⟨final, grants_append_iff.2 ⟨after, grants, grantsAgain⟩⟩
    cases errand with
    | created resource =>
        refine ⟨_, grants_cons_iff.2 ⟨?_, rfl⟩⟩
        apply handle_elsewhere orderly.ready granted.same _ (grants_cons_iff.1 grants).1
        intro _ name named _
        rw [granted.nodes]
        exact nodeAfter_of_fileName? _ named
    | deleted resource =>
        refine ⟨_, grants_cons_iff.2 ⟨?_, rfl⟩⟩
        exact handle_elsewhere orderly.ready granted.same (by simp) (grants_cons_iff.1 grants).1
    | updated old new =>
        obtain ⟨gone, made⟩ := grants_cons_iff.1 grants
        have goneAgain := handle_elsewhere orderly.ready granted.same (by simp) gone
        have deleted := granted_of_handle orderly gone
        have deletedAgain := granted_of_handle orderlyAfter goneAgain
        have sameStill := deleted.sameDirectories deletedAgain granted.same
        refine ⟨_, grants_cons_iff.2 ⟨goneAgain, grants_cons_iff.2 ⟨?_, rfl⟩⟩⟩
        apply handle_elsewhere (deleted.isOrderly orderly).ready sameStill _
          (grants_cons_iff.1 made).1
        intro _ name named held
        rw [place_eq deleted.same] at held ⊢
        rw [deletedAgain.nodes, place_eq granted.same]
        by_cases hit : old.fileName? = some name
        · rw [deleted.nodes] at held
          rw [List.foldl_cons, nodeAfter_of_fileName? _ hit] at held ⊢
          exact held
        · rw [foldl_nodeAfter_of_fileName?_ne _ (by simpa using hit), granted.nodes]
          exact nodeAfter_of_fileName? _ named
  · intro directory goal held
    rw [List.foldl_append]
    rcases foldl_nodeAfter_eq_or handler errand.requests directory goal with kept | ⟨node, settled⟩
    · exact kept _
    · rw [settled, settled]

/-- The same for errands. -/
theorem exists_succeed_of_matchedBy (middle replaced : List Errand) {early late : List Errand}
    (orderly : handler.IsOrderly before)
    (succeeded : handler.Succeed (early ++ (middle ++ late)) before after)
    (matched : handler.MatchedBy (middle.flatMap Errand.requests)
      (replaced.flatMap Errand.requests)) :
    ∃ final, handler.Succeed (early ++ (replaced ++ late)) before final ∧ after.Alike final := by
  simp only [succeed_iff, List.flatMap_append] at succeeded ⊢
  exact matched.within _ _ before after orderly succeeded

theorem alike_recreated {resource : Resource} (orderly : handler.IsOrderly before)
    (succeeded : (handler.created resource before).1.result = .ok ()) :
    (handler.created resource before).2.Alike (handler.recreated resource before).2 := by
  unfold recreated
  cases kindEq : resource.kind with
  | record => exact .refl _
  | zone =>
      obtain ⟨address, text, here, formed, rendered, -⟩ :=
        exists_wrote_of_created kindEq succeeded
      simp only [created, kindEq] at succeeded ⊢
      have named := fileName_of_isAt here formed
      exact alike_rewriteZone named rendered (orderly.tidy _ _ named) succeeded

theorem alike_rewrite (orderly : handler.IsOrderly before)
    (grants : handler.Grants errand.requests before after) :
    after.Alike (errand.rewrite handler before) := by
  cases errand with
  | created resource =>
      obtain ⟨succeeded, rfl⟩ := grants_cons_iff.1 grants
      exact alike_recreated orderly succeeded
  | deleted resource =>
      obtain ⟨-, rfl⟩ := grants_cons_iff.1 grants
      exact .refl _
  | updated old new =>
      obtain ⟨gone, made⟩ := grants_cons_iff.1 grants
      obtain ⟨succeeded, rfl⟩ := grants_cons_iff.1 made
      have orderlyThen := (granted_of_handle orderly gone).isOrderly orderly
      have alike := alike_recreated orderlyThen succeeded
      have unfolded : (Errand.updated old new).rewrite handler before =
          (handler.recreated new (handler.deleted old before).2).2 := by
        simp only [Errand.rewrite]
        split
        · rename_i failed
          simp [handle, failed] at gone
        · rename_i deleted
          rw [deleted]
      rw [unfolded]
      exact alike

theorem alike_foldl_rewrite {other : Files} (orderly : handler.IsOrderly before)
    (alike : before.Alike other) (succeeded : handler.Succeed errands before after) :
    after.Alike (errands.foldl (fun files errand => errand.rewrite handler files) other) := by
  induction errands generalizing before other with
  | nil =>
      obtain rfl : after = before := succeeded
      exact alike
  | cons errand errands ih =>
      obtain ⟨first, rest⟩ := succeeded
      have grants := grants_requests_iff.2 ⟨first, rfl⟩
      have orderlyThen := (granted_of_grants orderly grants).isOrderly orderly
      obtain ⟨final, grantsToo, alikeFinal⟩ := grants.of_alike orderly alike
      have alikeThen := alike_rewrite (orderly.of_alike alike) grantsToo
      exact ih orderlyThen (alikeFinal.trans alikeThen) rest

/-- If all errands succeed in an orderly directory, the last one about a file decides what it holds,
nothing else is changed, and no temporary file remains.  The directory is the same if every file is
written anew, if an errand is run twice in a row, if two errands about different files are
exchanged, and if an object is created where it would be updated. -/
theorem lastWriter_wins (orderly : handler.IsOrderly before)
    (succeeded : handler.Succeed errands before after) :
    handler.LastWins (errands.flatMap Errand.requests) before after ∧ handler.IsOrderly after ∧
      after.Alike (errands.foldl (fun files errand => errand.rewrite handler files) before) ∧
      (∀ early errand late, errands = early ++ errand :: late →
        ∃ final, handler.Succeed (early ++ errand :: errand :: late) before final ∧
          after.Alike final) ∧
      (∀ early first second late, errands = early ++ first :: second :: late →
        first.IsApartFrom second →
          ∃ final, handler.Succeed (early ++ second :: first :: late) before final ∧
            after.Alike final) ∧
      ∀ early old new late, errands = early ++ .updated old new :: late → old.key = new.key →
        ∃ final, handler.Succeed (early ++ .created new :: late) before final ∧
          after.Alike final := by
  have granted := granted_of_grants orderly (succeed_iff.1 succeeded)
  refine ⟨granted.lastWins, granted.isOrderly orderly,
    alike_foldl_rewrite orderly (.refl before) succeeded, ?_, ?_, ?_⟩
  · rintro early errand late rfl
    apply exists_succeed_of_matchedBy [errand] [errand, errand] orderly succeeded
    simpa using matchedBy_again errand
  · rintro early first second late rfl apart
    apply exists_succeed_of_matchedBy [first, second] [second, first] orderly succeeded
    simpa using matchedBy_swap apart
  · rintro early old new late rfl same
    apply exists_succeed_of_matchedBy [.updated old new] [.created new] orderly succeeded
    exact matchedBy_created (Resource.fileName?_eq_of_key_eq same)

theorem isOrderly_files : Sample.handler.IsOrderly Sample.files where
  ready := Sample.isReady_files
  tidy := by
    intro zone name _
    have absent : Sample.files.nodes.get? ["zones", temporary name] = none :=
      Table.get?_ofList_eq_none_iff.2 (by simp)
    exact absent

/-- One zone is updated while another one comes and goes. -/
def changes : List Errand :=
  [.created (Sample.zone "a" 1 "x"), .created (Sample.zone "b" 2 "y"),
    .updated (Sample.zone "a" 1 "x") (Sample.zone "a" 1 "z"), .deleted (Sample.zone "b" 2 "y")]

/-- The zone might as well have been created a second time. -/
theorem lastWriter_wins_updated : ∃ after final,
    Sample.handler.IsOrderly Sample.files ∧ Sample.handler.Succeed changes Sample.files after ∧
      after.node? ["zones", "team_a.zone"] = some (.file "z".toUTF8) ∧
      after.node? ["zones", "team_b.zone"] = none ∧
      after.node? ["zones", "team_a.zone.tmp"] = none ∧
      Sample.handler.Succeed
        [.created (Sample.zone "a" 1 "x"), .created (Sample.zone "b" 2 "y"),
          .created (Sample.zone "a" 1 "z"), .deleted (Sample.zone "b" 2 "y")]
        Sample.files final ∧ after.Alike final := by
  obtain ⟨after, succeeded⟩ : ∃ after, Sample.handler.Succeed changes Sample.files after :=
    ⟨_, by decide +kernel, by decide +kernel, by decide +kernel, by decide +kernel, rfl⟩
  have place : Sample.handler.place Sample.files = ["zones"] := by decide
  obtain ⟨last, orderly, -, -, -, updating⟩ := lastWriter_wins isOrderly_files succeeded
  obtain ⟨text, rendered, kept⟩ := last.created
    [(.created, Sample.zone "a" 1 "x"), (.created, Sample.zone "b" 2 "y"),
      (.deleted, Sample.zone "a" 1 "x")]
    (Sample.zone "a" 1 "z") [(.deleted, Sample.zone "b" 2 "y")] "team_a.zone" rfl (by decide)
    (by decide)
  have text_eq : Sample.handler.template.render "z" = .ok "z" := by decide
  obtain rfl : text = "z" := Except.ok.inj (rendered.symm.trans text_eq)
  have gone := last.deleted
    [(.created, Sample.zone "a" 1 "x"), (.created, Sample.zone "b" 2 "y"),
      (.deleted, Sample.zone "a" 1 "x"), (.created, Sample.zone "a" 1 "z")]
    (Sample.zone "b" 2 "y") [] "team_b.zone" rfl (by decide) (by simp)
  have tidy := orderly.tidy (Sample.zone "a" 1 "z") "team_a.zone" (by decide)
  rw [place_eq last.same, place] at tidy
  rw [place] at kept gone
  obtain ⟨final, succeededToo, alike⟩ := updating
    [.created (Sample.zone "a" 1 "x"), .created (Sample.zone "b" 2 "y")] _ _
    [.deleted (Sample.zone "b" 2 "y")] rfl rfl
  exact ⟨after, final, isOrderly_files, succeeded, kept, gone, tidy, succeededToo, alike⟩

end Handler

end ZoneKeeper
