import ZoneKeeper.Template.Layout

/-!
# Plain templates

A plain template is a sequence of texts without braces and backslashes and of tags that stand for
the value that it is expanded with.  It is always well formed.  No tag in it takes anything of the
texts around it, so that its elements are the texts and the tags as they are written.
-/

namespace ZoneKeeper.Template

/-- A character that is part of no tag and guards none. -/
def isPlain (char : Char) : Bool :=
  char ≠ '\x7b' && char ≠ '\x7d' && char ≠ '\\'

theorem ne_of_isPlain {char : Char} (plain : isPlain char = true) :
    char ≠ '\x7b' ∧ char ≠ '\\' := by
  simp only [isPlain, Bool.and_eq_true, decide_eq_true_eq] at plain
  exact ⟨plain.1.1, plain.2⟩

/-- A text that has no braces and no backslashes; line ends, quotes and all else may be in it. -/
structure PlainText where
  text : String
  plain : text.toList.all isPlain = true := by decide

inductive Segment where
  | text (text : PlainText)
  | tag

/-- The text of some segments with a value in the place of every tag. -/
def filled (value : String) : List Segment → String
  | [] => ""
  | .text text :: segments => text.text ++ filled value segments
  | .tag :: segments => value ++ filled value segments

/-- The tag as it is written; a plain template is written as it is filled with it. -/
def tagText : String :=
  "\x7b\x7bthis\x7d\x7d"

section Tag

variable (rest : List Char)

/-- The reference to the value that a template is expanded with. -/
def selfReference : Reference :=
  { text := "this" }

def selfTag : TrimmedTag :=
  { tag := .output (.reference selfReference) }

/-- At the braces that close a tag no further argument begins. -/
theorem readsKeyword_brace : readsKeyword ('\x7d' :: rest) = false :=
  rfl

theorem readOption_brace : readOption ('\x7d' :: rest) = none :=
  rfl

theorem readReference_brace : readReference ('\x7d' :: rest) = none :=
  rfl

theorem skipLiteral_brace (limit : Nat) : skipLiteral limit ('\x7d' :: rest) = none := by
  cases limit <;> rfl

theorem readCall_brace (limit : Nat) : readCall limit ('\x7d' :: rest) = none := by
  cases limit <;> rfl

theorem readParameter_brace (limit : Nat) : readParameter limit ('\x7d' :: rest) = none := by
  cases limit with
  | zero => rfl
  | succ limit =>
      rw [readParameter, readsKeyword_brace, skipLiteral_brace, readReference_brace,
        readCall_brace]
      rfl

theorem readArguments_brace (limit : Nat) :
    readArguments limit ('\x7d' :: rest) = ([], '\x7d' :: rest) := by
  cases limit with
  | zero => rfl
  | succ limit =>
      rw [readArguments, readOption_brace, readParameter_brace]
      rfl

theorem readName_self :
    readName ("this".toList ++ '\x7d' :: rest) = some ("this", '\x7d' :: rest) :=
  rfl

/-- The word is a name, but no call, as nothing is behind it; so it is a reference. -/
theorem readOutputCall_self : readOutputCall ("this".toList ++ '\x7d' :: rest) = none := by
  have skipped : Json.skipBlanks ('\x7d' :: rest) = '\x7d' :: rest := rfl
  simp only [readOutputCall, readName_self, skipped, readArguments_brace, Option.bind_eq_bind,
    Option.bind_some]

theorem readReference_self :
    readReference ("this".toList ++ '\x7d' :: rest) = some (selfReference, '\x7d' :: rest) := by
  have read : readReference ("this".toList ++ '\x7d' :: rest) =
      some ({ text := String.ofList (("this".toList ++ '\x7d' :: rest).take
        (("this".toList ++ '\x7d' :: rest).length - ('\x7d' :: rest).length)) },
        '\x7d' :: rest) := rfl
  rw [read, List.length_append, Nat.add_sub_cancel, List.take_left, String.ofList_toList]
  rfl

theorem readTarget_self : readTarget ("this".toList ++ '\x7d' :: rest) =
    some (.reference selfReference, '\x7d' :: rest) := by
  have uncalled (limit : Nat) : readCall limit ("this".toList ++ '\x7d' :: rest) = none := by
    cases limit <;> rfl
  rw [readTarget, uncalled, readReference_self]
  rfl

theorem readEnd_self : readEnd "\x7d\x7d" ('\x7d' :: '\x7d' :: rest) = some (false, rest) :=
  rfl

theorem readTag_self :
    readTag ("this".toList ++ '\x7d' :: '\x7d' :: rest) = some (selfTag, rest) := by
  -- The word begins neither another kind of tag nor an inverse.
  have opened : readTag ("this".toList ++ '\x7d' :: '\x7d' :: rest) =
      readOutput false ("this".toList ++ '\x7d' :: '\x7d' :: rest) := rfl
  rw [opened]
  simp only [readOutput, readPlain, ended, readOutputCall_self, readTarget_self, readEnd_self,
    Option.bind_eq_bind, Option.bind_some, Option.bind_none, Option.map_none, Option.map_some,
    Option.none_or]
  rfl

end Tag

/-- All tags are the one that stands for the value, and all texts are plain. -/
structure Source.IsPlain (source : Source) : Prop where
  first : ∀ char ∈ source.first, isPlain char
  tag : ∀ part ∈ source.rest, part.1 = selfTag
  behind : ∀ part ∈ source.rest, ∀ char ∈ part.2, isPlain char

/-- The text of a source with a value in the place of every tag. -/
def Source.filled (value : List Char) (source : Source) : List Char :=
  source.first ++ source.rest.flatMap fun part => value ++ part.2

/-- The source of some segments: texts that follow one another are one text. -/
def divided : List Segment → Source
  | [] => ⟨[], []⟩
  | .text text :: segments =>
      let source := divided segments
      { source with first := text.text.toList ++ source.first }
  | .tag :: segments =>
      let source := divided segments
      ⟨[], (selfTag, source.first) :: source.rest⟩

theorem filled_divided (value : String) (segments : List Segment) :
    (divided segments).filled value.toList = (filled value segments).toList := by
  induction segments with
  | nil => rfl
  | cons segment segments ih =>
      cases segment with
      | text text =>
          rw [filled, String.toList_append, ← ih]
          simp only [divided, Source.filled, List.append_assoc]
      | tag =>
          rw [filled, String.toList_append, ← ih]
          simp only [divided, Source.filled, List.flatMap_cons, List.nil_append,
            List.append_assoc]

theorem isPlain_divided (segments : List Segment) : (divided segments).IsPlain := by
  induction segments with
  | nil => exact ⟨by simp [divided], by simp [divided], by simp [divided]⟩
  | cons segment segments ih =>
      cases segment with
      | text text =>
          have plain := List.all_eq_true.1 text.plain
          exact ⟨List.forall_mem_append.2 ⟨plain, ih.first⟩, ih.tag, ih.behind⟩
      | tag =>
          exact ⟨by simp [divided], List.forall_mem_cons.2 ⟨rfl, ih.tag⟩,
            List.forall_mem_cons.2 ⟨ih.first, ih.behind⟩⟩

/-- What no backslash guards is part of the text unless the braces of a tag begin there. -/
theorem readGap_cons {braces text : List Char} {char : Char} (unguarded : char ≠ '\\') :
    readGap braces false (char :: text) =
      if braces.isPrefixOf (char :: text) then ([], char :: text)
      else (char :: (readGap braces false text).1, (readGap braces false text).2) := by
  -- All the earlier cases of the reader begin with a backslash.
  have clash {goal : Prop} (guarded : char = '\\') : goal := absurd guarded unguarded
  rw [readGap]
  · exact fun _ guarded _ => clash guarded
  · exact fun _ guarded _ => clash guarded
  · exact fun _ guarded _ => clash guarded
  · exact fun _ guarded => clash guarded

/-- A plain text is read up to the end or to the next tag. -/
theorem readGap_plain {gap rest : List Char} (plain : ∀ char ∈ gap, isPlain char)
    (ends : rest = [] ∨ ['\x7b', '\x7b'].isPrefixOf rest = true) :
    readGap ['\x7b', '\x7b'] false (gap ++ rest) = (gap, rest) := by
  induction gap with
  | nil =>
      cases rest with
      | nil => rfl
      | cons char rest =>
          have opened := ends.resolve_left (List.cons_ne_nil char rest)
          have unguarded : char ≠ '\\' := by
            rintro rfl
            simp at opened
          rw [List.nil_append, readGap_cons unguarded, if_pos opened]
  | cons char gap ih =>
      obtain ⟨here, others⟩ := List.forall_mem_cons.1 plain
      obtain ⟨noBrace, unguarded⟩ := ne_of_isPlain here
      have unopened : ¬ ['\x7b', '\x7b'].isPrefixOf (char :: (gap ++ rest)) = true := by
        intro opened
        rw [List.isPrefixOf_cons_cons, Bool.and_eq_true, beq_iff_eq] at opened
        exact noBrace opened.1.symm
      rw [List.cons_append, readGap_cons unguarded, if_neg unopened, ih others]

/-- A plain text is a source without tags. -/
theorem scan_plain {gap : List Char} (plain : ∀ char ∈ gap, isPlain char) (limit : Nat) :
    scan (limit + 1) false gap = .ok ⟨gap, []⟩ := by
  have read : readGap ['\x7b', '\x7b'] false gap = (gap, []) := by
    simpa using readGap_plain plain (Or.inl rfl)
  rw [scan]
  simp only [Bool.false_eq_true, if_false, List.replicate, read]

/-- Behind a plain text a tag is read, and then the rest as a source of its own. -/
theorem scan_tag {gap : List Char} (plain : ∀ char ∈ gap, isPlain char) (rest : List Char)
    (limit : Nat) :
    scan (limit + 1) false (gap ++ (tagText.toList ++ rest)) =
      (scan limit false rest).map fun source =>
        ⟨gap, (selfTag, source.first) :: source.rest⟩ := by
  have opened : tagText.toList ++ rest =
      '\x7b' :: '\x7b' :: ("this".toList ++ '\x7d' :: '\x7d' :: rest) := rfl
  have read : readGap ['\x7b', '\x7b'] false (gap ++ (tagText.toList ++ rest)) =
      (gap, tagText.toList ++ rest) := readGap_plain plain (Or.inr rfl)
  rw [opened] at read ⊢
  rw [scan]
  simp only [Bool.false_eq_true, if_false, List.replicate, read, List.length_cons, List.length_nil,
    List.drop_succ_cons, List.drop_zero, readTag_self]
  have readable : selfTag.tag.isReadable = true := rfl
  have continued : selfTag.tag.isVerbatim = false := rfl
  rw [readable, continued]
  cases scan limit false rest with
  | error fault => rfl
  | ok source => rfl

/-- There are no more tags than characters. -/
theorem length_rest_le (source : Source) :
    source.rest.length ≤ (source.filled tagText.toList).length := by
  obtain ⟨first, rest⟩ := source
  induction rest generalizing first with
  | nil => exact Nat.zero_le _
  | cons part rest ih =>
      have shorter := ih part.2
      have written : tagText.toList.length = 8 := rfl
      simp only [Source.filled, List.flatMap_cons, List.length_append, List.length_cons]
        at shorter ⊢
      omega

/-- A source that is written down is read back, if as many tags may be read as there are. -/
theorem scan_filled {source : Source} (plain : source.IsPlain) {limit : Nat}
    (enough : source.rest.length < limit) :
    scan limit false (source.filled tagText.toList) = .ok source := by
  obtain ⟨first, rest⟩ := source
  induction rest generalizing first limit with
  | nil =>
      cases limit with
      | zero => contradiction
      | succ limit => simpa [Source.filled] using scan_plain plain.first limit
  | cons part rest ih =>
      cases limit with
      | zero => contradiction
      | succ limit =>
          obtain ⟨tag, behind⟩ := part
          obtain ⟨isSelf, tags⟩ := List.forall_mem_cons.1 plain.tag
          obtain ⟨plainBehind, others⟩ := List.forall_mem_cons.1 plain.behind
          obtain rfl : tag = selfTag := isSelf
          have written : Source.filled tagText.toList ⟨first, (selfTag, behind) :: rest⟩ =
              first ++ (tagText.toList ++ Source.filled tagText.toList ⟨behind, rest⟩) := by
            simp only [Source.filled, List.flatMap_cons, List.append_assoc]
          have scanned := ih behind ⟨plainBehind, tags, others⟩ (Nat.lt_of_succ_lt_succ enough)
          rw [written, scan_tag plain.first, scanned]
          rfl

def selfElement : Element :=
  .output (.reference selfReference)

/-- A text as an element; an empty text is none. -/
def textElements (text : List Char) : List Element :=
  if text.isEmpty then [] else [.text (String.ofList text)]

/-- The tags of a source, each with the text behind it. -/
def restElements (rest : List (TrimmedTag × List Char)) : List Element :=
  rest.flatMap fun part => selfElement :: textElements part.2

/-- The texts and the tags as they are written, one after another. -/
def Source.elements (source : Source) : List Element :=
  textElements source.first ++ restElements source.rest

theorem trim_nothing (text : List Char) : Margin.trim {} text = (text, {}) := by
  cases text with
  | nil => rfl
  | cons char text => simp [Margin.trim]

/-- A tag that puts out a value takes nothing of the text before it, and asks for nothing of the
text behind it. -/
theorem layOut_plain {rest : List (TrimmedTag × List Char)}
    (tags : ∀ part ∈ rest, part.1 = selfTag) (isFirst : Bool) (first : List Char) :
    layOut isFirst {} first rest =
      textPiece first ++ rest.flatMap fun part => .tag selfTag.tag :: textPiece part.2 := by
  induction rest generalizing isFirst first with
  | nil => simp [layOut, trim_nothing]
  | cons part rest ih =>
      obtain ⟨tag, behind⟩ := part
      obtain ⟨isSelf, others⟩ := List.forall_mem_cons.1 tags
      obtain rfl : tag = selfTag := isSelf
      have crowded : standsAlone isFirst rest.isEmpty first selfTag.tag behind = false := rfl
      have kept : trimBefore selfTag false first = first := rfl
      have put : indented selfTag false first = selfTag.tag := rfl
      have unmoved : Margin.after {} selfTag false = {} := rfl
      rw [layOut, trim_nothing]
      simp only [crowded, kept, put, unmoved, ih others, List.flatMap_cons, List.cons_append]

theorem foldlM_step_text (nest : Nest) (text : List Char) :
    (textPiece text).foldlM Nest.step nest =
      .ok { nest with elements := (textElements text).reverse ++ nest.elements } := by
  cases text with
  | nil => rfl
  | cons char text => rfl

theorem foldlM_step_rest (nest : Nest) (rest : List (TrimmedTag × List Char)) :
    (rest.flatMap fun part => .tag selfTag.tag :: textPiece part.2).foldlM Nest.step nest =
      .ok { nest with elements := (restElements rest).reverse ++ nest.elements } := by
  induction rest generalizing nest with
  | nil => rfl
  | cons part rest ih =>
      have put : nest.step (.tag selfTag.tag) = .ok (nest.put selfElement) := rfl
      rw [List.flatMap_cons, List.cons_append, List.foldlM_cons, put]
      simp only [bind, Except.bind, List.foldlM_append, foldlM_step_text, ih]
      simp [Nest.put, restElements]

/-- A plain template is well formed, and compiled to its texts and tags. -/
theorem compile_filled (segments : List Segment) :
    compile (filled tagText segments) = .ok ⟨(divided segments).elements⟩ := by
  have plain := isPlain_divided segments
  have scanned : scan ((filled tagText segments).toList.length + 1) false
      (filled tagText segments).toList = .ok (divided segments) := by
    rw [← filled_divided]
    exact scan_filled plain (Nat.lt_succ_of_le (length_rest_le _))
  rw [compile, scanned]
  simp only [bind, Except.bind, layOut_plain plain.tag, List.foldlM_append, foldlM_step_text,
    foldlM_step_rest]
  simp [Source.elements]

end ZoneKeeper.Template
