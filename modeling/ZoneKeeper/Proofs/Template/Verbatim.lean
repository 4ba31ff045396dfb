import ZoneKeeper.Proofs.Handler.Outcomes
import ZoneKeeper.Proofs.Template.Plain

/-!
# Verbatim expansion

A plain template is expanded by putting the value in the place of every tag, whatever the value is:
nothing is escaped or trimmed, and what looks like a tag in the value stays as it is.  If there is a
tag at all, the value can be told from the text.  So a zone file that is left alone because it holds
the text already is the file of the same zone name.
-/

namespace ZoneKeeper

namespace Template

section Expanding

variable {expand : Surroundings → List Element → Expansion String} {around : Surroundings}
  {value : String}

/-- The template itself is expanded with a value, outside of all blocks and other templates. -/
structure Surroundings.IsOutermost (around : Surroundings) (value : String) : Prop where
  indent : around.indent = ""
  scope : around.scope = .ofRoot (.string value)

/-- Whatever has been expanded before, the elements put out this text. -/
def PutsOut (expand : Surroundings → List Element → Expansion String) (around : Surroundings)
    (elements : List Element) (text : String) : Prop :=
  ∀ before, ∃ after, renderElements expand around elements before = .ok (text, after)

theorem putsOut_nil : PutsOut expand around [] "" :=
  fun before => ⟨before, rfl⟩

theorem PutsOut.cons {element : Element} {elements : List Element} {first rest : String}
    (putsFirst : ∀ before, ∃ after,
      renderElement expand around element before = .ok (first, after))
    (putsRest : PutsOut expand around elements rest) :
    PutsOut expand around (element :: elements) (first ++ rest) := by
  intro before
  obtain ⟨between, renderedFirst⟩ := putsFirst before
  obtain ⟨after, renderedRest⟩ := putsRest between
  refine ⟨after, ?_⟩
  simp only [renderElements, bind, StateT.bind, Except.bind, renderedFirst, renderedRest]
  rfl

/-- Without an indentation a text is put out as it is. -/
theorem exists_put (flush : around.indent = "") (text : String) (before : Progress) :
    ∃ after, around.put text before = .ok (text, after) := by
  by_cases empty : text = ""
  · exact ⟨before, by simp [Surroundings.put, empty]⟩
  · let ends := text.toList.getLast?.any Text.isLineEnd
    refine ⟨{ before with endsLine := ends, startsLine := ends }, ?_⟩
    simp only [Surroundings.put, empty, flush, if_true, if_false]
    rfl

/-- The tag puts out the value itself. -/
theorem outputOf_self (value : String) :
    outputOf (.ofRoot (.string value)) (.reference selfReference) = .ok value := by
  have noHelper : isHelper selfReference.text = false := by decide
  rw [outputOf, noHelper]
  rfl

theorem putsOut_textElements (outermost : around.IsOutermost value) {elements : List Element}
    {rest : String} (puts : PutsOut expand around elements rest) (text : List Char) :
    PutsOut expand around (textElements text ++ elements) (String.ofList text ++ rest) := by
  cases text with
  | nil => simpa only [textElements, List.isEmpty_nil, if_true, List.nil_append, String.ofList_nil,
      String.empty_append] using puts
  | cons char text =>
      exact PutsOut.cons (fun before => exists_put outermost.indent _ before) puts

theorem putsOut_selfElement (outermost : around.IsOutermost value) {elements : List Element}
    {rest : String} (puts : PutsOut expand around elements rest) :
    PutsOut expand around (selfElement :: elements) (value ++ rest) := by
  refine PutsOut.cons (fun before => ?_) puts
  obtain ⟨after, put⟩ := exists_put outermost.indent value before
  refine ⟨after, ?_⟩
  rw [selfElement, renderElement, outermost.scope, outputOf_self]
  exact put

theorem putsOut_elements (outermost : around.IsOutermost value) (source : Source) :
    PutsOut expand around source.elements (String.ofList (source.filled value.toList)) := by
  obtain ⟨first, rest⟩ := source
  induction rest generalizing first with
  | nil =>
      have puts : PutsOut expand around (textElements first ++ []) (String.ofList first ++ "") :=
        putsOut_textElements outermost putsOut_nil first
      simpa [Source.elements, restElements, Source.filled] using puts
  | cons part rest ih =>
      have puts := putsOut_textElements outermost (putsOut_selfElement outermost (ih part.2)) first
      simpa [Source.elements, restElements, Source.filled, String.ofList_append] using puts

end Expanding

/-- A plain template is expanded by putting the value in the place of every tag. -/
theorem expand_elements (segments : List Segment) (value : String) :
    expand ⟨(divided segments).elements⟩ value = .ok (filled value segments) := by
  let around : Surroundings :=
    { whole := (divided segments).elements, scope := .ofRoot (.string value) }
  have outermost : around.IsOutermost value := ⟨rfl, rfl⟩
  have puts : PutsOut (renderWithin (deepest - 1)) around (divided segments).elements
      (String.ofList ((divided segments).filled value.toList)) :=
    putsOut_elements outermost (divided segments)
  obtain ⟨after, rendered⟩ := puts {}
  have unlimited : deepest = deepest - 1 + 1 := rfl
  rw [filled_divided, String.ofList_toList] at rendered
  rw [expand, StateT.run', unlimited, renderWithin, rendered]
  rfl

def Segment.isTag : Segment → Bool
  | .text _ => false
  | .tag => true

section Telling

variable {segments : List Segment} {first second : String}

theorem length_filled (value : String) (segments : List Segment) :
    (filled value segments).length =
      (filled "" segments).length + segments.countP Segment.isTag * value.length := by
  induction segments with
  | nil => simp [filled]
  | cons segment segments ih =>
      cases segment with
      | text text =>
          rw [List.countP_cons_of_neg (by simp [Segment.isTag])]
          simp only [filled, String.length_append, ih]
          omega
      | tag =>
          rw [List.countP_cons_of_pos rfl, Nat.succ_mul]
          simp only [filled, String.length_append, ih, String.length_empty]
          omega

/-- Two values of one length that make the same text are the same, as the first tag begins at the
same place. -/
theorem eq_of_filled_eq_of_length_eq (tagged : .tag ∈ segments)
    (sameLength : first.length = second.length)
    (same : filled first segments = filled second segments) : first = second := by
  induction segments with
  | nil => contradiction
  | cons segment segments ih =>
      cases segment with
      | text text =>
          have others : Segment.tag ∈ segments :=
            (List.mem_cons.1 tagged).resolve_left Segment.noConfusion
          exact ih others ((String.append_right_inj text.text).1 same)
      | tag =>
          have sameChars := congrArg String.toList same
          simp only [filled, String.toList_append] at sameChars
          have aligned : first.toList.length = second.toList.length := by
            rw [String.length_toList, String.length_toList, sameLength]
          exact String.toList_inj.1 (List.append_inj sameChars aligned).1

/-- Where there is a tag, different values make different texts. -/
theorem filled_inj (tagged : .tag ∈ segments) :
    filled first segments = filled second segments ↔ first = second := by
  refine ⟨fun same => ?_, fun same => same ▸ rfl⟩
  -- The number of tags is not zero, so that the length of the text tells that of the value.
  have lengths := congrArg String.length same
  rw [length_filled first, length_filled second] at lengths
  have tags : 0 < segments.countP Segment.isTag := List.countP_pos_iff.2 ⟨_, tagged, rfl⟩
  have sameLength := Nat.eq_of_mul_eq_mul_left tags (Nat.add_left_cancel lengths)
  exact eq_of_filled_eq_of_length_eq tagged sameLength same

end Telling

/-- The segments of the template that is used unless another one is given. -/
def standardSegments : List Segment :=
  [ .text { text := "$ORIGIN " }, .tag, .text { text := ".\n$TTL 3600\n" },
    .text { text := "@   IN SOA ns1." }, .tag, .text { text := ". hostmaster." }, .tag,
    .text { text := ". (\n        1          ; serial\n        7200       ; refresh\n" },
    .text { text := "        3600       ; retry\n        1209600    ; expire\n" },
    .text { text := "        3600 )     ; minimum\n@   IN NS  ns1." }, .tag,
    .text { text := ".\n" } ]

theorem standardSource_eq : standardSource = filled tagText standardSegments := by
  decide +kernel

/-- Every sequence of plain texts and tags is a template, as the standard one is, and it is rendered
by putting the zone name in the place of every tag, whatever the zone name is.  If there is a tag,
different zone names are rendered differently.  So a handler with this template leaves a file that
was written for a zone name alone exactly if the zone still declares this zone name. -/
theorem renders_verbatim (segments : List Segment) :
    (standardSource = filled tagText standardSegments ∧ .tag ∈ standardSegments) ∧
    ∃ template, ofSource (filled tagText segments) = .ok template ∧
      (∀ zoneName, template.render zoneName = .ok (filled zoneName segments)) ∧
      (.tag ∈ segments →
        (∀ first second, template.render first = template.render second → first = second) ∧
        ∀ directory zone files path former,
          Handler.pathOf ⟨directory, template⟩ zone = .ok path →
          files.read path = .ok (filled former segments).toUTF8 →
            (Handler.createZone ⟨directory, template⟩ zone files = ({}, files) ↔
              zone.zoneName = former)) := by
  refine ⟨⟨standardSource_eq, by simp [standardSegments]⟩, ⟨(divided segments).elements⟩, ?_⟩
  have renders (zoneName : String) :
      render ⟨(divided segments).elements⟩ zoneName = .ok (filled zoneName segments) := by
    rw [render, expand_elements]
    rfl
  refine ⟨by rw [ofSource, compile_filled]; rfl, renders, fun tagged => ⟨?told, ?leftAlone⟩⟩
  case told =>
    intro first second same
    rw [renders, renders] at same
    exact (filled_inj tagged).1 (Except.ok.inj same)
  case leftAlone =>
    intro directory zone files path former located held
    cases named : Handler.fileName zone with
    | error error => simp [Handler.pathOf, named, Except.map] at located
    | ok name =>
        simp only [Handler.pathOf, named, Except.map, Except.ok.injEq] at located
        rw [Handler.createZone_eq_unchanged_iff named (renders zone.zoneName) (located ▸ held)]
        rw [String.toUTF8, String.toUTF8, String.toByteArray_inj, filled_inj tagged]
        exact eq_comm

/-- Two tags with nothing between them, and blanks around them. -/
def spacedSegments : List Segment :=
  [.text { text := "zone " }, .tag, .tag, .text { text := " \r\n\t" }]

/-- A zone name that looks like a tag, with signs that mean something elsewhere. -/
def hostileName : String :=
  "\x7b\x7bthis\x7d\x7d &<\"\\\x7b\x7b#if\r"

/-- A directory with the file of a zone as it was written for a zone name. -/
def filesFor (zoneName : String) : Files :=
  { nodes := Table.ofList
      [ (["zones"], .directory),
        (["zones", "team_a.zone"], .file (filled zoneName spacedSegments).toUTF8) ] }

theorem read_filesFor (zoneName : String) : (filesFor zoneName).read "zones/team_a.zone" =
    .ok (filled zoneName spacedSegments).toUTF8 :=
  rfl

theorem pathOf_zone (template : Template) (zoneName : String) :
    Handler.pathOf ⟨"zones", template⟩ (Sample.zone "a" 1 zoneName) = .ok "zones/team_a.zone" := by
  have here : (Sample.zone "a" 1 zoneName).IsZoneAt ⟨"team", "a"⟩ :=
    Sample.isZoneAt_zone (by decide) (by decide) 1 zoneName
  have joined : Path.join "zones" (Address.fileName ⟨"team", "a"⟩) = "zones/team_a.zone" := by
    decide
  rw [Handler.pathOf, Handler.fileName_of_isAt here.toIsAt here.proper.toIsWellFormed]
  exact congrArg Except.ok joined

/-- The hostile name stands twice where the tags stood, blanks and all, and a file that was written
for it is left alone, unless the zone name has a line end more. -/
theorem renders_verbatim_hostile :
    let zone := Sample.zone "a" 1 hostileName
    let longer := Sample.zone "a" 1 (hostileName ++ "\n")
    Segment.tag ∈ spacedSegments ∧
    ∃ template,
      ofSource "zone \x7b\x7bthis\x7d\x7d\x7b\x7bthis\x7d\x7d \r\n\t" = .ok template ∧
      template.render hostileName = .ok ("zone " ++ hostileName ++ hostileName ++ " \r\n\t") ∧
      template.render hostileName ≠ template.render (hostileName ++ "\n") ∧
      Handler.pathOf ⟨"zones", template⟩ zone = .ok "zones/team_a.zone" ∧
      Handler.createZone ⟨"zones", template⟩ zone (filesFor hostileName) =
        ({}, filesFor hostileName) ∧
      Handler.createZone ⟨"zones", template⟩ longer (filesFor hostileName) ≠
        ({}, filesFor hostileName) := by
  intro zone longer
  have tagged : Segment.tag ∈ spacedSegments := by simp [spacedSegments]
  have apart : hostileName ++ "\n" ≠ hostileName := by decide
  obtain ⟨-, template, compiled, renders, told⟩ := renders_verbatim spacedSegments
  obtain ⟨distinct, leftAlone⟩ := told tagged
  have located (zoneName : String) := pathOf_zone template zoneName
  have held := read_filesFor hostileName
  refine ⟨tagged, template, compiled, renders hostileName, ?_, located _, ?_, ?_⟩
  · exact fun same => apart (distinct _ _ same).symm
  · exact (leftAlone _ _ _ _ _ (located _) held).2 rfl
  · exact fun kept => apart ((leftAlone _ _ _ _ _ (located _) held).1 kept)

end Template

end ZoneKeeper
