import Stencil.Proofs.Value.Equality
import Stencil.Yaml.Node

/-!
# Faults of reading YAML documents

Characters that make up no document are a fault of the document.  Some documents are well
formed and still cannot be read, since a text in them spells no value: a number may be too
large for what it stands for, or a date may be outside of the calendar.  Reading has no
faults of other kinds, up to the composition of nodes.
-/

namespace Stencil

/-- A fault of a node that is well formed but has no value. -/
inductive Fault.Valueless : Fault → Prop
  | wrongValue : Valueless .wrongValue
  | wrongType : Valueless .wrongType
  | outOfRange : Valueless .outOfRange
  | missingKey : Valueless .missingKey
  | missingAttribute : Valueless .missingAttribute
  | overflow : Valueless .overflow
  | tooDeep : Valueless .tooDeep

/-- A fault that reading a document ends with. -/
inductive Fault.OfDocument : Fault → Prop
  | document (stage : DocumentStage) : OfDocument (.document stage)
  | valueless {fault : Fault} (valueless : fault.Valueless) : OfDocument fault

namespace Yaml

open Fault (OfDocument)

/-- Reading that only fails with faults of documents. -/
abbrev Reads {α : Type} (result : Except Fault α) : Prop :=
  FailsOnly OfDocument result

/-! ## Characters -/

theorem reads_badToken {α : Type} : Reads (badToken : Except Fault α) :=
  .error (.document .tokens)

theorem Cursor.reads_endLine (cursor : Cursor) : Reads cursor.endLine :=
  .ite (.ok _) reads_badToken

private theorem reads_scanNumber (cursor : Cursor) : Reads (scanNumber cursor) := by
  refine .ite reads_badToken ?_
  split
  · exact .ok _
  · exact .error (.valueless .wrongValue)

private theorem reads_scanTagBytes (fuel : Nat) (cursor : Cursor) :
    Reads (scanTagBytes fuel cursor) := by
  induction fuel generalizing cursor with
  | zero => exact reads_badToken
  | succ fuel ih =>
    unfold scanTagBytes
    split
    · exact .ite (.bind (ih _) fun _ => .ok _) reads_badToken
    · exact reads_badToken
    · exact .ok _

private theorem reads_scanTagParts (fuel : Nat) (cursor : Cursor) :
    Reads (scanTagParts fuel cursor) := by
  induction fuel generalizing cursor with
  | zero => exact reads_badToken
  | succ fuel ih =>
    refine .ite (.bind (reads_scanTagBytes fuel _) fun found => ?_) (.ok _)
    dsimp only
    split
    · exact reads_badToken
    · exact .bind (ih _) fun _ => .ok _

private theorem reads_scanTagSuffix (cursor : Cursor) : Reads (scanTagSuffix cursor) := by
  unfold scanTagSuffix
  exact .checked reads_badToken fun _ => .bind (reads_scanTagParts _ _) fun _ => .ok _

private theorem reads_scanTagHandle (cursor : Cursor) : Reads (scanTagHandle cursor) := by
  unfold scanTagHandle
  split
  · exact .ok _
  · exact .ite (.ok _) reads_badToken
  · exact reads_badToken

private theorem reads_scanTag (cursor : Cursor) : Reads (scanTag cursor) := by
  refine .bind ?_ fun _ => .ite (.ok _) reads_badToken
  refine .ite (.bind (reads_scanTagSuffix _) fun _ => .ite (.ok _) reads_badToken) ?_
  refine .ite (.ok _) (.ite ?_ (.bind (reads_scanTagSuffix _) fun _ => .ok _))
  exact .bind (reads_scanTagHandle _) fun _ => .bind (reads_scanTagSuffix _) fun _ => .ok _

private theorem reads_scanAnchorName (cursor : Cursor) : Reads (scanAnchorName cursor) :=
  .checked reads_badToken fun _ => .ite (.ok _) reads_badToken

private theorem reads_scanVersion (cursor : Cursor) : Reads (scanVersion cursor) :=
  .bind (reads_scanNumber _) fun _ => .checked reads_badToken fun _ =>
    .bind (reads_scanNumber _) fun _ => .ite (.ok _) reads_badToken

private theorem reads_scanHandleDefinition (cursor : Cursor) :
    Reads (scanHandleDefinition cursor) :=
  .bind (reads_scanTagHandle _) fun _ => .checked reads_badToken fun _ =>
    .bind (reads_scanTagSuffix _) fun _ => .ite (.ok _) reads_badToken

private theorem reads_scanDirective (cursor : Cursor) : Reads (scanDirective cursor) := by
  unfold scanDirective
  refine .checked reads_badToken fun _ => ?_
  dsimp only
  split
  · exact .bind (reads_scanVersion _) fun _ => .bind (Cursor.reads_endLine _) fun _ => .ok _
  · exact .bind (reads_scanHandleDefinition _) fun _ =>
      .bind (Cursor.reads_endLine _) fun _ => .ok _
  · exact .bind (.ok _) fun _ => .bind (Cursor.reads_endLine _) fun _ => .ok _

private theorem reads_pointOf (number : Nat) : Reads (pointOf number) := by
  unfold pointOf
  split
  · exact .ok _
  · exact .ite (.error (.valueless .wrongValue)) (.error (.valueless .overflow))

private theorem reads_scanQuotedBreaks (fuel : Nat) (before : List Char) (cursor : Cursor) :
    Reads (scanQuotedBreaks fuel before cursor) := by
  induction fuel generalizing before cursor with
  | zero => exact reads_badToken
  | succ fuel ih => exact .ite reads_badToken (.ite (ih _ _) (.ok _))

private theorem reads_scanEscape (cursor : Cursor) : Reads (scanEscape cursor) := by
  unfold scanEscape
  split
  · exact reads_badToken
  · split
    · exact .ok _
    · split
      · exact .ite (.bind (reads_pointOf _) fun _ => .ok _) reads_badToken
      · exact .ite (.bind (reads_scanQuotedBreaks _ _ _) fun _ => .ok _) reads_badToken

private theorem reads_scanQuotedSpaces (cursor : Cursor) : Reads (scanQuotedSpaces cursor) := by
  unfold scanQuotedSpaces
  dsimp only
  split
  · exact reads_badToken
  · exact .ite (.bind (reads_scanQuotedBreaks _ _ _) fun _ => .ok _) (.ok _)

private theorem reads_scanQuoted (isDouble : Bool) (fuel : Nat) (before : Text)
    (cursor : Cursor) : Reads (scanQuoted isDouble fuel before cursor) := by
  induction fuel generalizing before cursor with
  | zero => exact reads_badToken
  | succ fuel ih =>
    unfold scanQuoted
    dsimp only
    split
    · exact reads_badToken
    · exact .ite (ih _ _) (.ite (ih _ _) (.ok _))
    · exact .ite (.ok _) (ih _ _)
    · exact .ite (.bind (reads_scanEscape _) fun _ => ih _ _) (ih _ _)
    · exact .bind (reads_scanQuotedSpaces _) fun _ => ih _ _

private theorem reads_indentation? (cursor : Cursor) : Reads (indentation? cursor) := by
  unfold indentation?
  split
  · exact .ite (.ite reads_badToken (.ok _)) (.ok _)
  · exact .ok _

private theorem reads_scanBlockMarks (cursor : Cursor) : Reads (scanBlockMarks cursor) := by
  refine .bind ?_ fun _ => .ite (.ok _) reads_badToken
  unfold scanBlockMarks.scan
  split
  · refine .bind (reads_indentation? _) fun width => ?_
    cases width <;> exact .ok _
  · refine .bind (reads_indentation? _) fun width => ?_
    cases width with
    | none => exact .ok _
    | some width =>
      dsimp only
      split <;> exact .ok _

private theorem reads_scanBlock (isFolded : Bool) (leastIndent : Nat) (cursor : Cursor) :
    Reads (scanBlock isFolded leastIndent cursor) := by
  refine .bind (reads_scanBlockMarks _) fun marks => .bind (Cursor.reads_endLine _) fun _ => ?_
  rcases marks with ⟨chomping, _ | width, cursor⟩ <;> exact .ok _

/-! ## Tokens -/

namespace TokenQueue

variable (queue : TokenQueue)

private theorem reads_dropCandidates (kind : Candidate → Bool) :
    Reads (queue.dropCandidates kind) :=
  .ite reads_badToken (.ok _)

private theorem reads_addCandidate : Reads queue.addCandidate :=
  .ite (.bind (reads_dropCandidates _ _) fun _ => .ok _) (.ok _)

private theorem reads_requireKeyPlace : Reads queue.requireKeyPlace :=
  .ite reads_badToken (.ok _)

private theorem reads_readEnd : Reads queue.readEnd :=
  .bind (reads_dropCandidates _ _) fun _ => .ok _

private theorem reads_readDirective : Reads queue.readDirective :=
  .bind (reads_dropCandidates _ _) fun _ => .bind (reads_scanDirective _) fun _ => .ok _

private theorem reads_readSeparator (token : Token) : Reads (queue.readSeparator token) :=
  .bind (reads_dropCandidates _ _) fun _ => .ok _

private theorem reads_readOpening (token : Token) : Reads (queue.readOpening token) :=
  .bind (reads_addCandidate _) fun _ => .ok _

private theorem reads_readClosing (token : Token) : Reads (queue.readClosing token) :=
  .bind (reads_dropCandidates _ _) fun _ => .ok _

private theorem reads_readComma : Reads queue.readComma :=
  .bind (reads_dropCandidates _ _) fun _ => .ok _

private theorem reads_readEntryMark : Reads queue.readEntryMark :=
  .bind (reads_requireKeyPlace _) fun _ => .bind (reads_dropCandidates _ _) fun _ => .ok _

private theorem reads_readKeyMark : Reads queue.readKeyMark :=
  .bind (reads_requireKeyPlace _) fun _ => .bind (reads_dropCandidates _ _) fun _ => .ok _

private theorem reads_readColon : Reads queue.readColon := by
  unfold readColon
  split
  · exact .ok _
  · exact .bind (reads_requireKeyPlace _) fun _ => .bind (reads_dropCandidates _ _) fun _ => .ok _

private theorem reads_readKeyStart {scan : Cursor → Except Fault (Token × Cursor)}
    (reads : ∀ cursor, Reads (scan cursor)) : Reads (queue.readKeyStart scan) :=
  .bind (reads_addCandidate _) fun _ => .bind (reads _) fun _ => .ok _

private theorem reads_readQuoted (isDouble : Bool) : Reads (readQuoted isDouble queue) :=
  reads_readKeyStart _ fun _ => .bind (reads_scanQuoted _ _ _ _) fun _ => .ok _

private theorem reads_readAlias : Reads queue.readAlias :=
  reads_readKeyStart _ fun _ => .bind (reads_scanAnchorName _) fun _ => .ok _

private theorem reads_readAnchor : Reads queue.readAnchor :=
  reads_readKeyStart _ fun _ => .bind (reads_scanAnchorName _) fun _ => .ok _

private theorem reads_readBlock (isFolded : Bool) : Reads (queue.readBlock isFolded) :=
  .bind (reads_dropCandidates _ _) fun _ => .bind (reads_scanBlock _ _ _) fun _ => .ok _

private theorem reads_readPlain : Reads queue.readPlain :=
  .bind (reads_addCandidate _) fun _ => .ok _

private theorem reads_readAt (character : Char) : Reads (queue.readAt character) :=
  .ite (reads_readDirective _) <| .ite (reads_readSeparator _ _) <|
  .ite (reads_readSeparator _ _) <| .ite (reads_readOpening _ _) <|
  .ite (reads_readOpening _ _) <| .ite (reads_readClosing _ _) <|
  .ite (reads_readClosing _ _) <| .ite (reads_readComma _) <|
  .ite (reads_readEntryMark _) <| .ite (reads_readKeyMark _) <| .ite (reads_readColon _) <|
  .ite (reads_readAlias _) <| .ite (reads_readAnchor _) <|
  .ite (reads_readKeyStart _ reads_scanTag) <| .ite (reads_readBlock _ _) <|
  .ite (reads_readBlock _ _) <| .ite (reads_readQuoted _ _) <| .ite (reads_readQuoted _ _) <|
  .ite (reads_readPlain _) reads_badToken

private theorem reads_readMore : Reads queue.readMore := by
  refine .bind (reads_dropCandidates _ _) fun _ => ?_
  dsimp only
  split
  · exact reads_readEnd _
  · exact reads_readAt _ _

end TokenQueue

/-- Tokens end, if with a fault, then with one of documents. -/
def Tokens.StopsWell (tokens : Tokens) : Prop :=
  ∀ fault, tokens.fault = some fault → OfDocument fault

private theorem stopsWell_takeAll (fuel : Nat) (before : List Token) (queue : TokenQueue) :
    (TokenQueue.takeAll fuel before queue).StopsWell := by
  -- Both ways to go on, taking a token and reading another one, use up fuel.
  have noFault (tokens : List Token) : Tokens.StopsWell ⟨tokens, none⟩ :=
    fun _ fault => nomatch fault
  induction fuel generalizing before queue with
  | zero =>
    unfold TokenQueue.takeAll
    exact noFault before.reverse
  | succ fuel ih =>
    have further : ∀ queue, (TokenQueue.takeAll.read fuel before queue).StopsWell := by
      intro queue
      unfold TokenQueue.takeAll.read
      split
      · next fault failed =>
        intro _ same
        cases same
        exact queue.reads_readMore fault failed
      · exact ih before _
    unfold TokenQueue.takeAll
    split
    · split
      · exact noFault _
      · exact further queue
    · dsimp only
      split
      · next fault failed =>
        intro _ same
        cases same
        split at failed
        · cases failed
        · exact queue.reads_dropCandidates _ fault failed
      · split
        · exact further _
        · exact ih _ _

theorem Tokens.stopsWell_ofChars (characters : List Char) : (ofChars characters).StopsWell :=
  stopsWell_takeAll _ _ _

/-! ## Events -/

namespace EventReader

/--
Reading fails where the tokens stop, or else for their structure; and what it gives is as
wanted.
-/
def Gives {α : Type} (stop : Option Fault) (wanted : α → Prop) : Except Fault α → Prop
  | .ok result => wanted result
  | .error fault => stop = some fault ∨ fault = .document .structure_

/-- A step to the next event leaves it open where the tokens stop. -/
abbrev Steps (stop : Option Fault) (step : Step) : Prop :=
  Gives stop (fun found => found.2.tokens.fault = stop) step

variable {α β : Type} {stop : Option Fault} {wanted : α → Prop}

private theorem Gives.bind {first : Except Fault α} {next : α → Except Fault β}
    {last : β → Prop} (here : Gives stop wanted first)
    (there : ∀ result, wanted result → Gives stop last (next result)) :
    Gives stop last (first >>= next) := by
  cases first with
  | ok result => exact there result here
  | error fault => exact here

private theorem Gives.ite {condition : Prop} [Decidable condition] {first second : Except Fault α}
    (here : Gives stop wanted first) (there : Gives stop wanted second) :
    Gives stop wanted (if condition then first else second) := by
  split
  · exact here
  · exact there

private theorem gives_misplaced : Gives stop wanted misplaced := .inr rfl

section Known

variable (reader : EventReader) (known : reader.tokens.fault = stop)

include known

private theorem gives_peek : Gives stop (fun _ => True) reader.peek := by
  unfold peek
  split
  · trivial
  · next fault there => exact .inl (known ▸ there)
  · exact gives_misplaced

omit known in
private theorem gives_fullName (handle : Option String) (suffix : String) :
    Gives stop (fun _ => True) (reader.fullName handle suffix) := by
  unfold fullName
  split
  · trivial
  · split
    · trivial
    · exact gives_misplaced

private theorem gives_readProperties :
    Gives stop (fun found => found.2.2.tokens.fault = stop) reader.readProperties := by
  refine (gives_peek reader known).bind fun token _ => ?_
  split
  · refine (gives_peek reader.next known).bind fun token _ => ?_
    split
    · exact (gives_fullName _ _ _).bind fun _ _ => known
    · exact known
  · refine (gives_peek reader.next known).bind fun token _ => ?_
    split
    · exact (gives_fullName _ _ _).bind fun _ _ => known
    · exact (gives_fullName _ _ _).bind fun _ _ => known
  · exact known

private theorem steps_node (isBlock isIndentless : Bool) :
    Steps stop (reader.node isBlock isIndentless) := by
  refine (gives_peek reader known).bind fun token _ => ?_
  split
  · exact known
  · refine (gives_readProperties reader known).bind fun found known => ?_
    rcases found with ⟨anchor, tagName, reader⟩
    refine (gives_peek reader known).bind fun token _ => ?_
    split
    · exact known
    · exact known
    · exact known
    · exact .ite known (.ite known (.ite known (.ite known gives_misplaced)))

private theorem steps_nodeUnless (stops : List Token) (after : Stage)
    (isBlock isIndentless : Bool) :
    Steps stop (reader.nodeUnless stops after (node isBlock isIndentless)) :=
  (gives_peek reader known).bind fun _ _ => .ite known (steps_node (reader.putOff after) known _ _)

omit known in
private theorem gives_readDirectives (hasVersion : Bool) (handles : List (String × String))
    (tokens : List Token) :
    Gives stop (fun _ => True) (readDirectives hasVersion handles tokens) := by
  induction tokens generalizing hasVersion handles with
  | nil => trivial
  | cons token tokens ih =>
    cases token with
    | directive directive =>
      cases directive with
      | version major minor => exact .ite gives_misplaced (ih _ _)
      | tagHandle handle start => exact .ite gives_misplaced (ih _ _)
      | reserved => exact ih _ _
    | _ => trivial

private theorem steps_announcedDocument : Steps stop reader.announcedDocument := by
  unfold announcedDocument
  dsimp only
  refine (gives_peek _ ?_).bind fun token _ => ?_
  · exact known
  split
  · exact known
  · refine (gives_readDirectives _ _ _).bind fun found _ => ?_
    refine (gives_peek _ ?_).bind fun token _ => ?_
    · exact known
    split
    · exact known
    · exact gives_misplaced

private theorem steps_firstDocument : Steps stop reader.firstDocument := by
  refine (gives_peek reader known).bind fun token _ => ?_
  split
  · exact steps_announcedDocument reader known
  · exact steps_announcedDocument reader known
  · exact steps_announcedDocument reader known
  · exact known

private theorem steps_documentContent : Steps stop reader.documentContent := by
  refine (gives_peek reader known).bind fun token _ => ?_
  split
  · exact known
  · exact known
  · exact known
  · exact known
  · exact steps_node reader known true false

private theorem steps_documentEnd : Steps stop reader.documentEnd := by
  refine (gives_peek reader known).bind fun token _ => ?_
  split <;> exact known

private theorem steps_sequenceEntry : Steps stop reader.sequenceEntry := by
  refine (gives_peek reader known).bind fun token _ => ?_
  split
  · exact steps_nodeUnless reader.next known _ _ _ _
  · exact known
  · exact gives_misplaced

private theorem steps_indentlessEntry : Steps stop reader.indentlessEntry := by
  refine (gives_peek reader known).bind fun token _ => ?_
  split
  · exact steps_nodeUnless reader.next known _ _ _ _
  · exact known

private theorem steps_mappingKey : Steps stop reader.mappingKey := by
  refine (gives_peek reader known).bind fun token _ => ?_
  split
  · exact steps_nodeUnless reader.next known _ _ _ _
  · exact known
  · exact gives_misplaced

private theorem steps_mappingValue : Steps stop reader.mappingValue := by
  refine (gives_peek reader known).bind fun token _ => ?_
  split
  · exact steps_nodeUnless reader.next known _ _ _ _
  · exact known

private theorem gives_skipComma (isFirst : Bool) :
    Gives stop (fun after => after.tokens.fault = stop) (reader.skipComma isFirst) := by
  refine .ite known ((gives_peek reader known).bind fun token _ => ?_)
  split
  · exact known
  · exact gives_misplaced

private theorem steps_flowSequenceEntry (isFirst : Bool) :
    Steps stop (reader.flowSequenceEntry isFirst) := by
  refine (gives_peek reader known).bind fun token _ => ?_
  split
  · exact known
  · refine (gives_skipComma reader known isFirst).bind fun reader known => ?_
    refine (gives_peek reader known).bind fun token _ => ?_
    split
    · exact known
    · exact known
    · exact steps_node (reader.putOff .flowSequenceEntry) known _ _

private theorem steps_flowPairValue : Steps stop reader.flowPairValue := by
  refine (gives_peek reader known).bind fun token _ => ?_
  split
  · exact steps_nodeUnless reader.next known _ _ _ _
  · exact known

private theorem steps_flowMappingKey (isFirst : Bool) :
    Steps stop (reader.flowMappingKey isFirst) := by
  refine (gives_peek reader known).bind fun token _ => ?_
  split
  · exact known
  · refine (gives_skipComma reader known isFirst).bind fun reader known => ?_
    refine (gives_peek reader known).bind fun token _ => ?_
    split
    · exact steps_nodeUnless reader.next known _ _ _ _
    · exact known
    · exact steps_node (reader.putOff .flowMappingNoValue) known _ _

private theorem steps_flowMappingValue : Steps stop reader.flowMappingValue := by
  refine (gives_peek reader known).bind fun token _ => ?_
  split
  · exact steps_nodeUnless reader.next known _ _ _ _
  · exact known

private theorem steps_step : Steps stop reader.step := by
  have onward : reader.next.tokens.fault = stop := known
  unfold step
  split
  · exact (gives_peek reader known).bind fun _ _ => known
  · exact steps_firstDocument reader known
  · exact steps_announcedDocument reader known
  · exact steps_documentContent reader known
  · exact steps_documentEnd reader known
  · exact steps_node reader known _ _
  · exact steps_sequenceEntry reader.next onward
  · exact steps_sequenceEntry reader known
  · exact steps_indentlessEntry reader known
  · exact steps_mappingKey reader.next onward
  · exact steps_mappingKey reader known
  · exact steps_mappingValue reader known
  · exact steps_flowSequenceEntry reader.next onward _
  · exact steps_flowSequenceEntry reader known _
  · exact steps_nodeUnless reader.next onward _ _ _ _
  · exact steps_flowPairValue reader known
  · exact (gives_peek reader known).bind fun _ _ => known
  · exact steps_flowMappingKey reader.next onward _
  · exact steps_flowMappingKey reader known _
  · exact steps_flowMappingValue reader known
  · exact (gives_peek reader known).bind fun _ _ => known
  · exact gives_misplaced

end Known

/-- Events stop where the tokens do, or for the structure of these. -/
private theorem fault_of_run {fuel : Nat} {before : List Event} {reader : EventReader}
    {fault : Fault} (known : reader.tokens.fault = stop)
    (stopped : (run fuel before reader).fault = some fault) :
    stop = some fault ∨ fault = .document .structure_ := by
  induction fuel generalizing before reader with
  | zero => cases stopped
  | succ fuel ih =>
    have stepped := steps_step reader known
    unfold run at stopped
    split at stopped
    · cases stopped
    · split at stopped
      · next failed =>
        cases stopped
        rw [failed] at stepped
        exact stepped
      · next found =>
        rw [found] at stepped
        exact ih stepped stopped

end EventReader

/-! ## Nodes -/

private theorem reads_add (composition : Composition) (anchor : Option String) (node : Node) :
    Reads (composition.add anchor node) := by
  unfold Composition.add
  dsimp only
  split
  · exact .ok _
  · exact .ite (.error (.document .references)) (.ok _)

private theorem reads_takeUp (composition : Composition) {fault : Option Fault}
    (well : ∀ stop, fault = some stop → OfDocument stop) (events : List Event) :
    Reads (composition.takeUp fault events) := by
  induction events generalizing composition with
  | nil =>
    cases fault with
    | none => exact .error (.document .structure_)
    | some stop => exact .error (well stop rfl)
  | cons event events ih =>
    unfold Composition.takeUp
    cases event with
    | streamStart => exact ih _
    | streamEnd => exact .ok _
    | documentStart => exact .ite (.error (.document .references)) (ih _)
    | documentEnd => exact ih _
    | «alias» name =>
      dsimp only
      split
      · exact ih _
      · exact .error (.document .references)
    | scalar properties content => exact .bind (reads_add _ _ _) fun _ => ih _
    | sequenceStart properties => exact .bind (reads_add _ _ _) fun _ => ih _
    | mappingStart properties => exact .bind (reads_add _ _ _) fun _ => ih _
    | sequenceEnd => exact ih _
    | mappingEnd => exact ih _

/-- Composing a document only fails with faults of documents. -/
theorem reads_compose (characters : List Char) :
    Reads (Document.ofEvents (Events.ofTokens (Tokens.ofChars characters))) := by
  refine .bind (reads_takeUp _ (fun stop stopped => ?_) _) fun _ => .ok _
  rcases EventReader.fault_of_run rfl stopped with ofTokens | rfl
  · exact Tokens.stopsWell_ofChars characters stop ofTokens
  · exact .document _

end Yaml

end Stencil
